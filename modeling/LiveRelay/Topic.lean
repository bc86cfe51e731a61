/-
Module: LiveRelay.Topic
Purpose: One topic at work: attaching and detaching connections, fanning data out to the subscribers
  of a channel, and probing connections for signs of life.
Main exports: Topic, Topic.attach, Topic.detach, Topic.broadcast, Topic.probe, Topic.terminateAll,
  FanOutReport, ProbeReport
-/
import LiveRelay.Registry
import LiveRelay.Topic.Stats

namespace LiveRelay

open Net

/-- One topic: its subscribers, all its connections, its counters, and the options that it shares
with the other topics of a relay. -/
structure Topic where
  config : TopicConfig
  registry : Registry
  tracker : Tracker
  stats : TopicStats
  nextId : ConnId
  queueCapacity : Nat
  overflow : OverflowPolicy
  rejectUnknown : Bool
  probeInterval : Span
deriving Inhabited

/-- What became of one payload, counted over the subscribers that it was offered to. -/
structure FanOutReport where
  delivered : Nat
  dropped : Nat
  skipped : Nat
deriving Repr, Inhabited, DecidableEq

namespace FanOutReport

def nothing : FanOutReport := ⟨0, 0, 0⟩

/-- Count one more outcome. -/
def add (report : FanOutReport) : SendOutcome → FanOutReport
  | .queued => { report with delivered := report.delivered + 1 }
  | .dropped => { report with dropped := report.dropped + 1 }
  | .skipped | .closed => { report with skipped := report.skipped + 1 }

end FanOutReport

/-- Offer a payload to connections, one after another. -/
def sendEach (payload : Payload) : List ConnRef → Connections → FanOutReport × Connections
  | [], conns => (.nothing, conns)
  | ref :: others, conns =>
    let (outcome, conns) := conns.act ref (·.trySend payload)
    let (report, conns) := sendEach payload others conns
    (report.add (outcome.getD .skipped), conns)

/-- What a probe finds: a connection that is terminated already, one to terminate because it gave
no sign of life, one that is sent a ping, or one that nobody writes to. -/
inductive ProbeFinding where
  | terminatedBefore
  | silent
  | pinged
  | unattended
deriving Repr, DecidableEq

/-- Probe one connection: take its sign of life and ask for the next, or terminate it. -/
def Connection.probe (conn : Connection) : ProbeFinding × Connection :=
  if conn.terminated then (.terminatedBefore, conn)
  else
    match conn.takeAlive with
    | (false, conn) => (.silent, conn.terminate)
    | (true, conn) =>
      match conn.ping with
      | (true, conn) => (.pinged, conn)
      | (false, conn) => (.unattended, conn)

/-- What one probe round did: how many connections were sent a ping, and how many were
terminated. -/
structure ProbeReport where
  probed : Nat
  terminated : Nat
deriving Repr, Inhabited, DecidableEq

namespace ProbeReport

def nothing : ProbeReport := ⟨0, 0⟩

/-- Count one more finding. -/
def add (report : ProbeReport) : ProbeFinding → ProbeReport
  | .pinged => { report with probed := report.probed + 1 }
  | .silent => { report with terminated := report.terminated + 1 }
  | .terminatedBefore | .unattended => report

end ProbeReport

/-- Probe connections, one after another. -/
def probeEach : List ConnRef → Connections → ProbeReport × Connections
  | [], conns => (.nothing, conns)
  | ref :: others, conns =>
    let (finding, conns) := conns.act ref Connection.probe
    let (report, conns) := probeEach others conns
    (report.add (finding.getD .terminatedBefore), conns)

/-- Terminate connections, one after another. -/
def terminateEach : List ConnRef → Connections → Connections
  | [], conns => conns
  | ref :: others, conns => terminateEach others (conns.update ref Connection.terminate)

namespace Topic

/-- A topic as it is configured, without connections. -/
def new (config : TopicConfig) (relay : RelayConfig) : Topic where
  config := config
  registry := .new config.name config.channels
  tracker := .empty
  stats := .zero
  nextId := 1
  queueCapacity := relay.queueCapacity.toNat
  overflow := relay.overflow
  rejectUnknown := relay.rejectUnknown
  probeInterval := relay.probeInterval

def name (topic : Topic) : String := topic.config.name

/-- Whether the topic accepts a channel. -/
def isKnown (topic : Topic) (channel : Channel) : Bool := topic.registry.isKnown channel

/-! ### The steps of attaching -/

/-- A connection of this topic that is not attached yet. -/
def newConnection (topic : Topic) (peer : SocketAddress) (channel : Option Channel) : Connection :=
  .new topic.nextId peer channel topic.queueCapacity topic.overflow

/-- Use up the number of the next connection. -/
def takeId (topic : Topic) : Topic := { topic with nextId := topic.nextId + 1 }

/-- Track a connection by its number. -/
def track (topic : Topic) (id : ConnId) (ref : ConnRef) : Topic :=
  { topic with tracker := topic.tracker.insert id ref }

/-- Count a connection that is being attached. -/
def countOpened (topic : Topic) : Topic := { topic with stats := topic.stats.connectionOpened }

/-- Register a connection under the channel it asked for. Without a channel, or with an unknown
one, it stays unregistered. -/
def enroll (topic : Topic) (id : ConnId) (channel : Option Channel) (ref : ConnRef) : Topic :=
  match channel with
  | none => topic
  | some channel =>
    match topic.registry.register channel id ref with
    | .ok registry => { topic with registry := registry }
    | .error _ => topic

/-- Attach a fresh connection: track it, count it, register it and open it. -/
def attach (topic : Topic) (conns : Connections) (peer : SocketAddress)
    (channel : Option Channel) : ConnRef × Topic × Connections :=
  let ref := conns.length
  let conn := topic.newConnection peer channel
  let topic := ((topic.takeId.track conn.id ref).countOpened).enroll conn.id conn.channel ref
  (ref, topic, Connections.update (conns ++ [conn]) ref Connection.markOpen)

/-! ### The steps of detaching -/

/-- Remove a connection from the channel it asked for. -/
def withdraw (topic : Topic) (id : ConnId) (channel : Option Channel) : Topic :=
  match channel with
  | none => topic
  | some channel => { topic with registry := (topic.registry.unregister channel id).2 }

/-- Stop tracking a connection, and count it as closed if it was tracked. -/
def untrack (topic : Topic) (id : ConnId) : Topic :=
  if topic.tracker.contains id then
    { topic with tracker := topic.tracker.erase id, stats := topic.stats.connectionClosed }
  else topic

/-- Detach a connection: begin to close it, remove it from its channel, stop tracking it, and
finish closing it. Doing it again changes nothing. -/
def detach (topic : Topic) (conns : Connections) (ref : ConnRef) : Topic × Connections :=
  match conns[ref]? with
  | none => (topic, conns)
  | some conn =>
    let conns := conns.update ref Connection.beginClose
    let topic := (topic.withdraw conn.id conn.channel).untrack conn.id
    (topic, conns.update ref Connection.finishClose)

/-! ### Operations on many connections -/

/-- Fan a payload out to connections in a given order, and count it. -/
def broadcastTo (topic : Topic) (conns : Connections) (order : List ConnRef)
    (payload : Payload) : FanOutReport × Topic × Connections :=
  let (report, conns) := sendEach payload order conns
  let stats := topic.stats.chunkRelayed payload.length report.delivered report.dropped
  (report, { topic with stats := stats }, conns)

/-- Fan a payload out to every open subscriber of a channel. It counts as relayed even where
nobody listens. -/
def broadcast (topic : Topic) (conns : Connections) (channel : Channel) (payload : Payload) :
    FanOutReport × Topic × Connections :=
  topic.broadcastTo conns (topic.registry.openMembers conns channel) payload

/-- Probe connections in a given order, and count those that are terminated. -/
def probeIn (topic : Topic) (conns : Connections) (order : List ConnRef) :
    ProbeReport × Topic × Connections :=
  let (report, conns) := probeEach order conns
  (report, { topic with stats := topic.stats.livenessTerminated report.terminated }, conns)

/-- Run one probe round over every tracked connection. -/
def probe (topic : Topic) (conns : Connections) : ProbeReport × Topic × Connections :=
  topic.probeIn conns topic.tracker.values

/-- Terminate every tracked connection, and say how many are tracked. -/
def terminateAll (topic : Topic) (conns : Connections) : Nat × Connections :=
  (topic.tracker.size, terminateEach topic.tracker.values conns)

end Topic

end LiveRelay
