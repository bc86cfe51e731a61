/-
Module: LiveRelay.Relay.Exchange
Purpose: What sources, subscribers and an operator do with a relay from outside, each thing done to
  its end: all tasks have settled before the next begins.
Main exports: Relay.push, Relay.openPush, Relay.sendChunk, Relay.finishPush, Relay.subscribe,
  Relay.sendFrame, Relay.pass, Relay.shutdown
-/
import LiveRelay.Relay.Settle

namespace LiveRelay

open Net

namespace Relay

/-! ### Pushing -/

/-- What became of one piece of data that a source sent. -/
inductive ChunkOutcome where
  | relayed (report : FanOutReport)
  | discarded
  | answered
deriving Repr, DecidableEq

/-- The outcome of a piece of data, by its first event. Data of no length is no event. -/
def chunkOutcome (request : PushRequest) : List Served → ChunkOutcome
  | .relayed report :: _ => .relayed report
  | .discarded :: _ => .discarded
  | .answered :: _ => .answered
  | _ =>
    if request.isOpen = false then .answered
    else if request.session.routed then .relayed .nothing
    else .discarded

/-- Start a push request and leave its body open. A body that is given no length is complete at
once. -/
def openPush (relay : Relay) (l : Nat) (head : RequestHead) : Opened × Relay :=
  match relay.open l default head with
  | (.started p, relay) =>
    let relay := if head.framing.isComplete then (relay.serve p .ended).2 else relay
    (.started p, relay.settle)
  | (opened, relay) => (opened, relay.settle)

/-- Send one piece of data of a body. -/
def sendChunk (relay : Relay) (p : Nat) (data : Payload) : Option (ChunkOutcome × Relay) :=
  relay.requests[p]?.map fun request =>
    if request.isOpen = false then (.answered, relay)
    else
      let (events, framing) := request.framing.sent data
      let (served, relay) := (relay.setRequest p { request with framing }).serveAll p events
      (chunkOutcome request served, relay.settle)

/-- Let body events happen that end a body, and say whether they did: a request that is answered
already is not answered again. -/
def closeBody (relay : Relay) (p : Nat) (events : Framing → List BodyEvent) :
    Option (Bool × Relay) :=
  relay.requests[p]?.map fun request =>
    if request.isOpen = false then (false, relay)
    else
      let (_, relay) := relay.serveAll p (events request.framing)
      (true, relay.settle)

/-- Say that a body is complete. -/
def finishPush (relay : Relay) (p : Nat) : Option (Bool × Relay) :=
  relay.closeBody p fun framing => [framing.closed]

/-- Break a body off. -/
def abortPush (relay : Relay) (p : Nat) : Option (Bool × Relay) :=
  relay.closeBody p fun _ => [.broken]

/-- Write the rest of a body as it is. -/
def rawPush (relay : Relay) (p : Nat) (bytes : Payload) : Option (Bool × Relay) :=
  relay.closeBody p fun framing => framing.raw bytes

/-- Send pieces of data one after another. -/
def sendChunks (relay : Relay) (p : Nat) : List Payload → List ChunkOutcome × Relay
  | [] => ([], relay)
  | data :: others =>
    match relay.sendChunk p data with
    | none => ([], relay)
    | some (outcome, relay) =>
      let (outcomes, relay) := relay.sendChunks p others
      (outcome :: outcomes, relay)

/-- Make a whole push request. -/
def push (relay : Relay) (l : Nat) (head : RequestHead) (chunks : List Payload) :
    Opened × List ChunkOutcome × Relay :=
  match relay.openPush l head with
  | (.started p, relay) =>
    let (outcomes, relay) := relay.sendChunks p chunks
    match relay.finishPush p with
    | some (_, relay) => (.started p, outcomes, relay)
    | none => (.started p, outcomes, relay)
  | (opened, relay) => (opened, [], relay)

/-! ### Subscribing -/

/-- Connect as a subscriber of a topic. -/
def subscribe (relay : Relay) (t : Nat) (handshake : Handshake) : Connected × Relay :=
  let (connected, relay) := relay.connect t default handshake
  (connected, relay.settle)

/-- Whether a subscriber is there and has not ended. -/
def isLive? (relay : Relay) (c : Nat) : Option Bool :=
  relay.subscribers[c]?.map fun subscriber => subscriber.ending.isNone

/-- Let something arrive from a subscriber and be read. -/
def sendInbound (relay : Relay) (c : Nat) (inbound : Inbound) : Relay :=
  (relay.arrive c inbound).settle

/-- Send one frame as a subscriber. -/
def sendFrame (relay : Relay) (c : Nat) (frame : Frame) : Relay :=
  relay.sendInbound c (.frame frame)

/-- The connection that a subscriber has or had. -/
def connection? (relay : Relay) (c : Nat) : Option Connection :=
  relay.subscribers[c]?.bind fun subscriber =>
    subscriber.connection.bind fun ref => relay.hub.connections[ref]?

/-- What was written to a subscriber since an earlier state of the relay. -/
def newMessages (before relay : Relay) (c : Nat) : List Message :=
  let written (relay : Relay) : List Message :=
    (relay.subscribers[c]?.map Subscriber.written).getD []
  (written relay).drop (written before).length

/-- The subscribers that ended since an earlier state of the relay. -/
def newlyEnded (before relay : Relay) : List Nat :=
  (List.range relay.subscribers.length).filter fun c =>
    before.isLive? c = some true ∧ relay.isLive? c = some false

/-- The requests that were answered since an earlier state of the relay. -/
def newlyAnswered (before relay : Relay) : List Nat :=
  (List.range relay.requests.length).filter fun p =>
    before.requests[p]?.map PushRequest.isOpen = some true ∧
      relay.requests[p]?.map PushRequest.isOpen = some false

/-- The subscribers that were sent a ping since an earlier state of the relay. -/
def newlyPinged (before relay : Relay) : List Nat :=
  (List.range relay.subscribers.length).filter fun c => .ping ∈ newMessages before relay c

/-! ### Time and the end -/

/-- What happens while time passes, each thing with the time at which it does. -/
structure Passage where
  pinged : List (Span × Nat)
  ended : List (Span × Nat)
  answered : List (Span × Nat)
deriving Repr, DecidableEq

namespace Passage

def nothing : Passage := ⟨[], [], []⟩

def append (first second : Passage) : Passage :=
  ⟨first.pinged ++ second.pinged, first.ended ++ second.ended, first.answered ++ second.answered⟩

/-- What changed from one state of the relay to a later one, at the time of the later one. -/
def between (before after : Relay) : Passage :=
  let timed (items : List Nat) : List (Span × Nat) := items.map fun item => (after.hub.now, item)
  ⟨timed (newlyPinged before after), timed (newlyEnded before after),
    timed (newlyAnswered before after)⟩

end Passage

/-- The times at which the clock stops on its way: every multiple of a period, and the end. -/
def stops (period start goal : Span) : List Span :=
  let first := start / period + 1
  ((List.range (goal / period + 1 - first)).map fun n => (first + n) * period).filter (· < goal)
    ++ [goal]

/-- Move the clock to each of some times. -/
def passTo (relay : Relay) : List Span → Passage × Relay
  | [] => (.nothing, relay)
  | time :: others =>
    let next := (relay.advance (time - relay.hub.now)).settle
    let (rest, last) := passTo next others
    ((Passage.between relay next).append rest, last)

/-- Let time pass. The clock stops wherever probe rounds are due. -/
def pass (relay : Relay) (span : Span) : Passage × Relay :=
  relay.passTo (stops relay.config.probeInterval relay.hub.now (relay.hub.now + span))

/-- Terminate the connections of a topic and let them end. -/
def terminateTopic (relay : Relay) (t : Nat) : Option Nat × Relay :=
  let (count, relay) := relay.terminateAll t
  (count, relay.settle)

/-- Terminate the connections of all topics. -/
def terminateTopics (relay : Relay) : Relay :=
  (List.range relay.hub.topics.length).foldl (fun relay t => (relay.terminateAll t).2) relay

/-- Shut the relay down: no connection comes about from now on, no probe runs, and every subscriber
is terminated. Requests that are in progress go on. -/
def shutdown (relay : Relay) : Relay := relay.stopListening.terminateTopics.settle

end Relay

end LiveRelay
