/-
Module: LiveRelay.Hub
Purpose: Several topics side by side with all their connections, and what can happen to them, on a
  clock that moves only when it is told to.
Main exports: Hub, Hub.Event, Hub.step, Hub.run
-/
import LiveRelay.Topic
import LiveRelay.Topic.Monitor

namespace LiveRelay

open Net

/-- Topics, the connections of all of them, the monitors that run, and the time. -/
structure Hub where
  topics : List Topic
  connections : Connections
  monitors : List Monitor
  now : Span
deriving Inhabited

namespace Hub

/-- Topics as they are configured, before anything happens. -/
def new (config : RelayConfig) : Hub where
  topics := config.topics.map fun topic => Topic.new topic config
  connections := []
  monitors := []
  now := 0

/-- Let one topic and the connections change, and keep the answer. -/
def onTopic {α : Type} (hub : Hub) (t : Nat)
    (f : Topic → Connections → α × Topic × Connections) : Option α × Hub :=
  match hub.topics[t]? with
  | none => (none, hub)
  | some topic =>
    let (result, topic, conns) := f topic hub.connections
    (some result, { hub with topics := hub.topics.set t topic, connections := conns })

/-- Let one connection change, and keep the answer. -/
def onConnection {α : Type} (hub : Hub) (ref : ConnRef) (f : Connection → α × Connection) :
    Option α × Hub :=
  let (result, conns) := hub.connections.act ref f
  (result, { hub with connections := conns })

/-- Run probe rounds of one topic. -/
def probeTimes (hub : Hub) (t : Nat) : Nat → Hub
  | 0 => hub
  | rounds + 1 => probeTimes (hub.onTopic t Topic.probe).2 t rounds

/-- Start the monitor of a topic. Its first round is due one period from now. -/
def spawnMonitor (hub : Hub) (t : Nat) : Hub :=
  match hub.topics[t]? with
  | none => hub
  | some topic =>
    { hub with monitors := hub.monitors ++ [⟨t, topic.probeInterval, hub.now + topic.probeInterval⟩] }

/-- Run the rounds that are due of some monitors, monitor by monitor, and put each behind the
monitors that wait. -/
def runMonitors (hub : Hub) : List Monitor → Hub
  | [] => hub
  | monitor :: others =>
    let (rounds, monitor) := monitor.catchUp hub.now
    let hub := hub.probeTimes monitor.topic rounds
    runMonitors { hub with monitors := hub.monitors ++ [monitor] } others

/-- Move the clock in one step, and run what is due then: what was due earlier runs first, and of
what was due at one time, what has waited longer. -/
def advance (hub : Hub) (span : Span) : Hub :=
  let now := hub.now + span
  let (ready, waiting) := hub.monitors.partition (·.isReady now)
  runMonitors { hub with now := now, monitors := waiting } (ready.mergeSort fun one other =>
    one.due ≤ other.due)

/-- Everything that can happen to topics and their connections. -/
inductive Event where
  | attach (topic : Nat) (peer : SocketAddress) (channel : Option Channel)
  | detach (topic : Nat) (ref : ConnRef)
  | broadcast (topic : Nat) (channel : Channel) (payload : Payload)
  | probe (topic : Nat)
  | terminateAll (topic : Nat)
  | terminate (ref : ConnRef)
  | markAlive (ref : ConnRef)
  | receive (ref : ConnRef)
  | receiveControl (ref : ConnRef)
  | dropQueues (ref : ConnRef)
  | spawnMonitor (topic : Nat)
  | advance (span : Span)
deriving Repr, DecidableEq

/-- What an event answers. -/
inductive Outcome where
  | done
  | attached (ref : ConnRef)
  | fannedOut (report : FanOutReport)
  | probed (report : ProbeReport)
  | terminating (connections : Nat)
  | received (payload : Received Payload)
  | requested (control : Received Control)
deriving Repr, DecidableEq

/-- One event. An event that names a topic or a connection that is not there does nothing. -/
def step (hub : Hub) : Event → Outcome × Hub
  | .attach t peer channel =>
    let (ref, hub) := hub.onTopic t fun topic conns => topic.attach conns peer channel
    ((ref.map .attached).getD .done, hub)
  | .detach t ref =>
    (.done, (hub.onTopic t fun topic conns => ((), topic.detach conns ref)).2)
  | .broadcast t channel payload =>
    let (report, hub) := hub.onTopic t fun topic conns => topic.broadcast conns channel payload
    ((report.map .fannedOut).getD .done, hub)
  | .probe t =>
    let (report, hub) := hub.onTopic t Topic.probe
    ((report.map .probed).getD .done, hub)
  | .terminateAll t =>
    let (count, hub) := hub.onTopic t fun topic conns =>
      let (count, conns) := topic.terminateAll conns
      (count, topic, conns)
    ((count.map .terminating).getD .done, hub)
  | .terminate ref => (.done, (hub.onConnection ref fun conn => ((), conn.terminate)).2)
  | .markAlive ref => (.done, (hub.onConnection ref fun conn => ((), conn.markAlive)).2)
  | .receive ref =>
    let (payload, hub) := hub.onConnection ref Connection.receive
    ((payload.map .received).getD .done, hub)
  | .receiveControl ref =>
    let (control, hub) := hub.onConnection ref Connection.receiveControl
    ((control.map .requested).getD .done, hub)
  | .dropQueues ref => (.done, (hub.onConnection ref fun conn => ((), conn.dropQueues)).2)
  | .spawnMonitor t => (.done, hub.spawnMonitor t)
  | .advance span => (.done, hub.advance span)

/-- Events one after another: their outcomes, and what they leave. -/
def run (hub : Hub) : List Event → List Outcome × Hub
  | [] => ([], hub)
  | event :: others =>
    let (outcome, hub) := hub.step event
    let (outcomes, hub) := run hub others
    (outcome :: outcomes, hub)

end Hub

end LiveRelay
