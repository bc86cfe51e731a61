/-
Module: LiveRelay.Subscriber.Handshake
Purpose: The upgrade requests by which subscribers connect, and how a topic answers them.
Main exports: Handshake, Handshake.header?, Handshake.isUpgrade, Topic.answerHandshake
-/
import LiveRelay.Ingest.Dispatch
import LiveRelay.Query
import LiveRelay.Status
import LiveRelay.Topic

namespace LiveRelay

open Text

/-- An upgrade request: its method, its target and its headers. -/
structure Handshake where
  method : String
  target : String
  headers : List (String × String)
deriving Repr, DecidableEq

/-- A text with the letters `A` to `Z` in lower case. -/
def lowerCase (text : String) : List Char := text.toList.map Char.toLower

/-- Whether a text occurs within another. -/
def occursIn (part : List Char) : List Char → Bool
  | [] => part.isEmpty
  | c :: rest => part.isPrefixOf (c :: rest) || occursIn part rest

namespace Handshake

/-- The value of the first header of a name, in whatever letter case the name is written. Blanks
around the value are no part of it. -/
def header? (handshake : Handshake) (name : String) : Option (List Char) :=
  (handshake.headers.find? fun header => lowerCase header.1 = lowerCase name).map fun header =>
    trimWhere (fun c => c = ' ' ∨ c = '\t') header.2.toList

/-- Whether the headers ask for an upgrade: the connection is to be upgraded, to the one protocol
and the one version of it that there is, and a key is given. -/
def isUpgrade (handshake : Handshake) : Bool :=
  let holds (name : String) (accept : List Char → Bool) : Bool :=
    (handshake.header? name).any accept
  holds "Connection" (fun value => occursIn "upgrade".toList (value.map Char.toLower)) ∧
    holds "Upgrade" (fun value => value.map Char.toLower = "websocket".toList) ∧
    holds "Sec-WebSocket-Version" (fun value => value = "13".toList) ∧
    holds "Sec-WebSocket-Key" fun _ => true

end Handshake

/-- Whether a channel was asked for that the topic accepts. -/
def Topic.knowsChannel (topic : Topic) (channel : Option Channel) : Bool :=
  channel.any topic.isKnown

/-- Answer an upgrade request: with the channel that the connection asks for, or with the status of
a refusal. A channel that the topic does not accept is refused only where the topic is told to. -/
def Topic.answerHandshake (topic : Topic) (handshake : Handshake) :
    Except Status (Option Channel) :=
  if handshake.method ≠ "GET" then .error .methodNotAllowed
  else if handshake.isUpgrade = false then .error .badRequest
  else
    let channel := channelOfQuery (queryOfTarget handshake.target)
    if topic.rejectUnknown ∧ topic.knowsChannel channel = false then .error .notFound
    else .ok channel

end LiveRelay
