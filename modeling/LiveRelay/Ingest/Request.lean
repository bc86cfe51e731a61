/-
Module: LiveRelay.Ingest.Request
Purpose: Push requests: which of them start a session, and how each is answered.
Main exports: RequestHead, IngestGroup.admit, IngestSession.status, PushRequest
-/
import LiveRelay.Ingest.Body
import LiveRelay.Ingest.Dispatch
import LiveRelay.Ingest.Session
import LiveRelay.Listeners
import LiveRelay.Status

namespace LiveRelay

open Text

/-- What a push request says before its body. -/
structure RequestHead where
  method : String
  target : String
  framing : Framing
deriving Repr, DecidableEq

/-- Data is pushed by either of these methods. -/
def isPushMethod (method : String) : Bool := method = "POST" ∨ method = "PUT"

/-- The routes of a group, each standing for itself and its topic. -/
def IngestGroup.served (group : IngestGroup) : List (IngestRoute × PlacedRoute) :=
  group.routes.map fun placed => (placed.route, placed)

/-- Find the topic and the channel that a request pushes to. A path that no route serves is not
found, whatever the method; a captured text that is not UTF-8 once decoded is a bad request, even
where it would be ignored. -/
def IngestGroup.admit (group : IngestGroup) (router : Router PlacedRoute) (head : RequestHead) :
    Except Status (PlacedRoute × Channel) :=
  match dispatch router group.served (pathOfTarget head.target) with
  | none => .error .notFound
  | some (capture, placed) =>
    if isPushMethod head.method = false then .error .methodNotAllowed
    else
      match capture.texts.mapM percentDecoded? with
      | some (channel :: _) => .ok (placed, channel)
      | _ => .error .badRequest

/-- How the request of a session is answered when the session ends. -/
def IngestSession.status (session : IngestSession) : IngestEnd → Status
  | .completed => if session.routed then .ok else .notFound
  | .reset => .badRequest
  | .timedOut => .timedOut

/-- A push request that started a session: the topic it pushes to, what is to come of its body,
when data last arrived, and how it ended, if it has. -/
structure PushRequest where
  topic : Nat
  framing : Framing
  session : IngestSession
  lastData : Span
  ending : Option IngestEnd
deriving Repr, DecidableEq

/-- Whether a request is still in progress. -/
def PushRequest.isOpen (request : PushRequest) : Bool := request.ending.isNone

end LiveRelay
