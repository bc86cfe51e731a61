/-
Module: LiveRelay.Relay
Purpose: A whole relay at work: its listeners, the push requests and subscribers on them, and the
  tasks that serve each subscriber.
Main exports: Relay, Relay.startWith, Relay.start, Relay.open, Relay.serve, Relay.connect, Relay.turn,
  Relay.advance, Relay.Event, Relay.step
-/
import LiveRelay.Hub
import LiveRelay.Ingest.Request
import LiveRelay.Subscriber.Frame
import LiveRelay.Subscriber.Handshake

namespace LiveRelay

open Net

/-- A listener where sources push, with the number of its next session. -/
structure IngestListener where
  group : IngestGroup
  nextSession : UInt64
deriving Repr, DecidableEq

/-- Why the connection of a subscriber ended. -/
inductive CloseReason where
  | clientClosed
  | transport
  | terminated
deriving Repr, DecidableEq

/-- What arrives from a subscriber: a frame, or the end of its sending. -/
inductive Inbound where
  | frame (frame : Frame)
  | hangUp
deriving Repr, DecidableEq

/-- What is written to a subscriber. -/
inductive Message where
  | data (payload : Payload)
  | ping
  | pong (payload : Payload)
  | close (payload : Payload)
deriving Repr, DecidableEq

/-- A subscriber whose upgrade was accepted: the connection that it has once it is attached, what
has arrived from it and is not read yet, the message that was read in part, everything that was
written to it, and why it ended, if it has. -/
structure Subscriber where
  topic : Nat
  peer : SocketAddress
  channel : Option Channel
  connection : Option ConnRef
  inbound : List Inbound
  message : Option BegunMessage
  written : List Message
  ending : Option CloseReason
deriving Repr, DecidableEq

namespace Subscriber

/-- A subscriber whose upgrade was accepted just now. -/
def new (topic : Nat) (peer : SocketAddress) (channel : Option Channel) : Subscriber :=
  ⟨topic, peer, channel, none, [], none, [], none⟩

/-- The data that was written to a subscriber. -/
def received (subscriber : Subscriber) : List Payload :=
  subscriber.written.filterMap fun
    | .data payload => some payload
    | _ => none

end Subscriber

/-- A relay on a host, whose listeners for sources share one way of finding routes. Requests and
subscribers are numbered in the order in which they came. -/
structure Relay where
  config : RelayConfig
  host : Host
  router : Router PlacedRoute
  hub : Hub
  listeners : List IngestListener
  requests : List PushRequest
  subscribers : List Subscriber
  listening : Bool

namespace Relay

/-- Bind a configuration on a host, find routes with a router, and start the monitor of every
topic. -/
def startWith (router : Router PlacedRoute) (config : RelayConfig) (host : Host) :
    Except BindError Relay :=
  match config.bind host with
  | .error fault => .error fault
  | .ok _ => .ok
    { config := config
      host := host
      router := router
      hub := (List.range config.topics.length).foldl Hub.spawnMonitor (.new config)
      listeners := config.ingestGroups.map fun group => ⟨group, 1⟩
      requests := []
      subscribers := []
      listening := true }

/-- Start a relay as it runs. -/
def start (config : RelayConfig) (host : Host) : Except BindError Relay :=
  startWith search config host

/-- Whether a new connection comes about. -/
def isReachable (relay : Relay) : Bool := relay.listening ∧ relay.host.reachable

/-- Let a topic change. -/
def onTopic (relay : Relay) (t : Nat) (f : Topic → Topic) : Relay :=
  { relay with hub := (relay.hub.onTopic t fun topic conns => ((), f topic, conns)).2 }

/-- Count something on a topic. -/
def count (relay : Relay) (t : Nat) (f : TopicStats → TopicStats) : Relay :=
  relay.onTopic t fun topic => { topic with stats := f topic.stats }

/-! ### Sources -/

/-- How a push request starts: there is no such listener, nobody is reached, it is answered at
once, or it starts a session. -/
inductive Opened where
  | absent
  | refused
  | turnedAway (status : Status)
  | started (request : Nat)
deriving Repr, DecidableEq

/-- What a body event does: there is no such request, the request is answered already, data is
fanned out or discarded, nothing arrives, or the session ends. -/
inductive Served where
  | absent
  | answered
  | relayed (report : FanOutReport)
  | discarded
  | nothing
  | ended
deriving Repr, DecidableEq

/-- Replace a request. -/
def setRequest (relay : Relay) (p : Nat) (request : PushRequest) : Relay :=
  { relay with requests := relay.requests.set p request }

/-- End the session of a request. -/
def endRequest (relay : Relay) (p : Nat) (request : PushRequest) (ending : IngestEnd) : Relay :=
  (relay.setRequest p { request with ending := some ending }).count request.topic
    TopicStats.ingestEnded

/-- One body event of a request. Data is broadcast as it is where the topic accepts the channel, and
discarded otherwise; a frame without data only shows that the source is still there. -/
def serve (relay : Relay) (p : Nat) (event : BodyEvent) : Served × Relay :=
  match relay.requests[p]? with
  | none => (.absent, relay)
  | some request =>
    if request.isOpen = false then (.answered, relay)
    else
      match event with
      | .ended => (.ended, relay.endRequest p request .completed)
      | .broken => (.ended, relay.endRequest p request .reset)
      | .frame data =>
        let request := { request with lastData := relay.hub.now }
        if data = [] then (.nothing, relay.setRequest p request)
        else if request.session.routed then
          match relay.hub.step (.broadcast request.topic request.session.channel data) with
          | (.fannedOut report, hub) =>
            let session := request.session.relayed data.length report
            (.relayed report, { relay with hub := hub }.setRequest p { request with session })
          | (_, hub) => (.nothing, { relay with hub := hub })
        else
          let session := request.session.discarded data.length
          (.discarded, relay.setRequest p { request with session })

/-- Body events one after another. -/
def serveAll (relay : Relay) (p : Nat) : List BodyEvent → List Served × Relay
  | [] => ([], relay)
  | event :: others =>
    let (served, relay) := relay.serve p event
    let (rest, relay) := relay.serveAll p others
    (served :: rest, relay)

/-- Start the session of a push request. -/
def startSession (relay : Relay) (l : Nat) (listener : IngestListener) (placed : PlacedRoute)
    (channel : Channel) (peer : SocketAddress) (framing : Framing) : Opened × Relay :=
  match relay.hub.topics[placed.topic]? with
  | none => (.absent, relay)
  | some topic =>
    let session := IngestSession.new listener.nextSession peer topic channel
    let request : PushRequest := ⟨placed.topic, framing, session, relay.hub.now, none⟩
    let next := { listener with nextSession := listener.nextSession + 1 }
    let relay := { relay with
      listeners := relay.listeners.set l next
      requests := relay.requests ++ [request] }
    (.started (relay.requests.length - 1),
      relay.count placed.topic TopicStats.ingestStarted)

/-- A push request arrives at a listener. -/
def «open» (relay : Relay) (l : Nat) (peer : SocketAddress) (head : RequestHead) :
    Opened × Relay :=
  match relay.listeners[l]? with
  | none => (.absent, relay)
  | some listener =>
    if relay.isReachable = false then (.refused, relay)
    else
      match listener.group.admit relay.router head with
      | .error status => (.turnedAway status, relay)
      | .ok (placed, channel) => relay.startSession l listener placed channel peer head.framing

/-- Whether the source of a request has been silent for too long. -/
def isOverdue (relay : Relay) (request : PushRequest) : Bool :=
  request.isOpen ∧ request.lastData + relay.config.idleTimeout ≤ relay.hub.now

/-- End the requests of a list whose sources have been silent for too long. -/
def expire (relay : Relay) : List Nat → Relay
  | [] => relay
  | p :: others =>
    match relay.requests[p]? with
    | none => relay.expire others
    | some request =>
      if relay.isOverdue request then (relay.endRequest p request .timedOut).expire others
      else relay.expire others

/-! ### Subscribers -/

/-- How an upgrade request is answered: there is no such topic, nobody is reached, it is refused,
or it is accepted. -/
inductive Connected where
  | absent
  | refused
  | turnedAway (status : Status)
  | accepted (subscriber : Nat)
deriving Repr, DecidableEq

/-- An upgrade request arrives at the listener of a topic. -/
def connect (relay : Relay) (t : Nat) (peer : SocketAddress) (handshake : Handshake) :
    Connected × Relay :=
  match relay.hub.topics[t]? with
  | none => (.absent, relay)
  | some topic =>
    if relay.isReachable = false then (.refused, relay)
    else
      match topic.answerHandshake handshake with
      | .error status => (.turnedAway status, relay)
      | .ok channel =>
        (.accepted relay.subscribers.length,
          { relay with subscribers := relay.subscribers ++ [.new t peer channel] })

/-- Replace a subscriber. -/
def setSubscriber (relay : Relay) (c : Nat) (subscriber : Subscriber) : Relay :=
  { relay with subscribers := relay.subscribers.set c subscriber }

/-- Something arrives from a subscriber. What arrives after the end is lost. -/
def arrive (relay : Relay) (c : Nat) (inbound : Inbound) : Relay :=
  match relay.subscribers[c]? with
  | none => relay
  | some subscriber =>
    if subscriber.ending.isSome then relay
    else relay.setSubscriber c { subscriber with inbound := subscriber.inbound ++ [inbound] }

/-- The connection of a subscriber, while it is attached. -/
def connectionOf? (relay : Relay) (c : Nat) : Option (Subscriber × ConnRef × Connection) :=
  match relay.subscribers[c]? with
  | none => none
  | some subscriber =>
    if subscriber.ending.isSome then none
    else
      match subscriber.connection with
      | none => none
      | some ref => relay.hub.connections[ref]?.map fun conn => (subscriber, ref, conn)

/-- What serving a subscriber consists of: attaching its connection, ending it once it is
terminated, reading what arrives, and writing what waits. -/
inductive Task where
  | attach
  | reap
  | read
  | write
deriving Repr, DecidableEq

/-- End the connection of a subscriber: its queues go first, then it is detached. -/
def endSubscriber (relay : Relay) (c : Nat) (subscriber : Subscriber) (ref : ConnRef)
    (reason : CloseReason) : Relay :=
  let hub := (relay.hub.step (.dropQueues ref)).2
  let hub := (hub.step (.detach subscriber.topic ref)).2
  { relay with hub := hub }.setSubscriber c { subscriber with ending := some reason }

/-- Attach the connection of a subscriber whose upgrade was accepted. -/
def attach? (relay : Relay) (c : Nat) : Option Relay :=
  match relay.subscribers[c]? with
  | none => none
  | some subscriber =>
    if subscriber.connection.isSome then none
    else
      match relay.hub.step (.attach subscriber.topic subscriber.peer subscriber.channel) with
      | (.attached ref, hub) =>
        some ({ relay with hub := hub }.setSubscriber c { subscriber with connection := some ref })
      | _ => none

/-- End the connection of a subscriber that is terminated. No close frame is sent. -/
def reap? (relay : Relay) (c : Nat) : Option Relay :=
  match relay.connectionOf? c with
  | none => none
  | some (subscriber, ref, conn) =>
    if conn.terminated then some (relay.endSubscriber c subscriber ref .terminated) else none

/-- Read what arrived first from a subscriber. -/
def read? (relay : Relay) (c : Nat) : Option Relay :=
  match relay.connectionOf? c with
  | none => none
  | some (subscriber, ref, _) =>
    match subscriber.inbound with
    | [] => none
    | .hangUp :: _ => some (relay.endSubscriber c subscriber ref .transport)
    | .frame frame :: others =>
      let (reading, message) := frame.reading subscriber.message
      let subscriber := { subscriber with inbound := others, message := message }
      let write (message : Message) : Subscriber :=
        { subscriber with written := subscriber.written ++ [message] }
      match reading with
      | .ignored => some (relay.setSubscriber c subscriber)
      | .alive =>
        let hub := (relay.hub.step (.markAlive ref)).2
        some ({ relay with hub := hub }.setSubscriber c subscriber)
      | .pinged payload => some (relay.setSubscriber c (write (.pong payload)))
      | .closing reply => some (relay.endSubscriber c (write (.close reply)) ref .clientClosed)
      | .violation => some (relay.endSubscriber c subscriber ref .transport)

/-- Write what waits for a subscriber: a ping before any data. -/
def write? (relay : Relay) (c : Nat) : Option Relay :=
  match relay.connectionOf? c with
  | none => none
  | some (subscriber, ref, _) =>
    let write (hub : Hub) (message : Message) : Relay :=
      { relay with hub := hub }.setSubscriber c
        { subscriber with written := subscriber.written ++ [message] }
    match relay.hub.step (.receiveControl ref) with
    | (.requested (.item .ping), hub) => some (write hub .ping)
    | _ =>
      match relay.hub.step (.receive ref) with
      | (.received (.item payload), hub) => some (write hub (.data payload))
      | _ => none

/-- One turn of a task. It gives nothing where the task has nothing to do. -/
def turn? (relay : Relay) (c : Nat) : Task → Option Relay
  | .attach => relay.attach? c
  | .reap => relay.reap? c
  | .read => relay.read? c
  | .write => relay.write? c

/-- Whether no task has anything to do but to write. What a subscriber does not read waits to be
written for as long as it likes. -/
def OnlyWrites (relay : Relay) : Prop :=
  ∀ (c : Nat) (task : Task), task ≠ .write → relay.turn? c task = none

/-- Terminate the connection of a subscriber. -/
def terminate (relay : Relay) (c : Nat) : Relay :=
  match relay.connectionOf? c with
  | none => relay
  | some (_, ref, _) => { relay with hub := (relay.hub.step (.terminate ref)).2 }

/-! ### The clock and the end -/

/-- Move the clock in one step: probe rounds run, and sources that are silent for too long are
answered. -/
def advance (relay : Relay) (span : Span) : Relay :=
  let relay := { relay with hub := relay.hub.advance span }
  relay.expire (List.range relay.requests.length)

/-- Stop all listeners and all monitors. -/
def stopListening (relay : Relay) : Relay :=
  { relay with listening := false, hub := { relay.hub with monitors := [] } }

/-- Terminate the tracked connections of a topic, and say how many they are. -/
def terminateAll (relay : Relay) (t : Nat) : Option Nat × Relay :=
  match relay.hub.step (.terminateAll t) with
  | (.terminating connections, hub) => (some connections, { relay with hub := hub })
  | (_, hub) => (none, { relay with hub := hub })

/-- Everything that can happen to a relay. -/
inductive Event where
  | open (listener : Nat) (peer : SocketAddress) (head : RequestHead)
  | body (request : Nat) (event : BodyEvent)
  | connect (topic : Nat) (peer : SocketAddress) (handshake : Handshake)
  | arrive (subscriber : Nat) (inbound : Inbound)
  | turn (subscriber : Nat) (task : Task)
  | terminate (subscriber : Nat)
  | terminateAll (topic : Nat)
  | advance (span : Span)
  | stopListening
deriving Repr, DecidableEq

/-- The relay after an event. An event that names what is not there, and the turn of a task that
has nothing to do, change nothing. -/
def step (relay : Relay) : Event → Relay
  | .open l peer head => (relay.open l peer head).2
  | .body p event => (relay.serve p event).2
  | .connect t peer handshake => (relay.connect t peer handshake).2
  | .arrive c inbound => relay.arrive c inbound
  | .turn c task => (relay.turn? c task).getD relay
  | .terminate c => relay.terminate c
  | .terminateAll t => (relay.terminateAll t).2
  | .advance span => relay.advance span
  | .stopListening => relay.stopListening

/-- The relay after events that happen one after another. -/
def run (relay : Relay) (events : List Event) : Relay := events.foldl step relay

end Relay

end LiveRelay
