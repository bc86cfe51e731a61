/-
Module: LiveRelay.Proofs.Hub.Reach
Purpose: Every event of a hub does one thing to some connections, one after another, and may add a
  connection behind them. This holds of every hub, whatever happened to it before.
Main exports: Hub.Event.effect, Hub.named, Hub.reached, Hub.connections_step_eq, Hub.getElem?_step
-/
import LiveRelay.Proofs.Hub.Concern
import Mathlib.Logic.Function.Iterate

namespace LiveRelay

open Net

/-- What no step of a walk changes is the same after all its steps. -/
theorem Connection.iterate_same {α : Type} {f : Connection → Connection} (view : Connection → α)
    (each : ∀ conn, view (f conn) = view conn) (n : Nat) (conn : Connection) :
    view (f^[n] conn) = view conn :=
  Function.Iterate.rec (fun later => view later = view conn) rfl
    (fun later same => (each later).trans same) n

namespace Connections

variable {conns : Connections} {ref other : ConnRef} {f : Connection → Connection}

/-- A connection is acted on as often as it is named. -/
theorem getElem?_updateEach (conns : Connections) (refs : List ConnRef)
    (f : Connection → Connection) (ref : ConnRef) :
    (conns.updateEach refs f)[ref]? = conns[ref]?.map f^[refs.count ref] := by
  induction refs generalizing conns with
  | nil =>
      rw [List.count_nil, Function.iterate_zero, Option.map_id]
      rfl
  | cons other others ih =>
      rw [updateEach_cons, ih]
      by_cases same : other = ref
      · subst same
        rw [getElem?_update_self, Option.map_map, List.count_cons_self, Function.iterate_succ]
      · rw [getElem?_update_of_ne same, List.count_cons_of_ne same]

theorem updateEach_append (one two : List ConnRef) :
    conns.updateEach (one ++ two) f = (conns.updateEach one f).updateEach two f :=
  List.foldl_append

theorem updateEach_singleton : conns.updateEach [ref] f = conns.update ref f := rfl

end Connections

namespace Hub

/-! ### What events do to connections -/

/-- What an event does to each connection that it reaches. -/
def Event.effect : Event → Connection → Connection
  | .attach _ _ _ | .spawnMonitor _ => id
  | .detach _ _ => fun conn => conn.beginClose.finishClose
  | .broadcast _ _ payload => fun conn => (conn.trySend payload).2
  | .probe _ | .advance _ => fun conn => conn.probe.2
  | .terminateAll _ | .terminate _ => Connection.terminate
  | .markAlive _ => Connection.markAlive
  | .receive _ => fun conn => conn.receive.2
  | .receiveControl _ => fun conn => conn.receiveControl.2
  | .dropQueues _ => Connection.dropQueues

/-- The connections that a topic names in one way or another, if it is there. -/
def named (hub : Hub) (names : Topic → List ConnRef) (t : Nat) : List ConnRef :=
  hub.topics[t]?.elim [] names

/-- The connections that a topic tracks. -/
def trackedBy (hub : Hub) (t : Nat) : List ConnRef :=
  hub.named (fun topic => topic.tracker.values) t

/-- The connections that a topic has registered under a channel. -/
def listedBy (hub : Hub) (t : Nat) (channel : Channel) : List ConnRef :=
  hub.named (fun topic => topic.registry.membersOf channel) t

/-- Whether a connection is there and open. -/
def isOpen (hub : Hub) (ref : ConnRef) : Bool :=
  (hub.connections[ref]?.map Connection.isOpen).getD false

/-- The topics of the rounds that monitors run at an instant, round by round. -/
def roundTopics (now : Span) (monitors : List Monitor) : List Nat :=
  monitors.flatMap fun monitor => List.replicate (monitor.catchUp now).1 monitor.topic

/-- The monitors that are ready when the clock has moved, in the order in which they run. -/
def readyAfter (hub : Hub) (span : Span) : List Monitor :=
  (hub.monitors.filter (·.isReady (hub.now + span))).mergeSort fun one other => one.due ≤ other.due

/-- The connections that an event reaches, in the order in which it reaches them. -/
def reached (hub : Hub) : Event → List ConnRef
  | .attach _ _ _ | .spawnMonitor _ => []
  | .detach t ref => if t < hub.topics.length then [ref] else []
  | .broadcast t channel _ => (hub.listedBy t channel).filter hub.isOpen
  | .probe t | .terminateAll t => hub.trackedBy t
  | .advance span =>
    (roundTopics (hub.now + span) (hub.readyAfter span)).flatMap hub.trackedBy
  | .terminate ref | .markAlive ref | .receive ref | .receiveControl ref | .dropQueues ref => [ref]

/-- The connection that an event adds behind all others. -/
def added (hub : Hub) : Event → List Connection
  | .attach t peer channel =>
    hub.topics[t]?.elim [] fun topic => [(topic.newConnection peer channel).markOpen]
  | _ => []

variable {hub : Hub} {t : Nat} {ref : ConnRef} {event : Event}

theorem named_of_here {names : Topic → List ConnRef} {topic : Topic}
    (here : hub.topics[t]? = some topic) : hub.named names t = names topic := by
  rw [named, here, Option.elim_some]

theorem named_of_none {names : Topic → List ConnRef} (absent : hub.topics[t]? = none) :
    hub.named names t = [] := by
  rw [named, absent, Option.elim_none]

/-- What a topic counted has no part in what it names. -/
theorem named_of_uncounted {after : Hub} {names : Topic → List ConnRef}
    (kept : after.topics.map Topic.uncounted = hub.topics.map Topic.uncounted)
    (blind : ∀ topic, names topic.uncounted = names topic) : after.named names = hub.named names := by
  funext t
  have read (topic : Option Topic) :
      topic.elim [] names = (topic.map Topic.uncounted).elim [] names := by
    cases topic with
    | none => rfl
    | some topic => exact (blind topic).symm
  rw [named, named, read after.topics[t]?, read hub.topics[t]?, ← List.getElem?_map,
    ← List.getElem?_map, kept]

theorem trackedBy_of_uncounted {after : Hub}
    (kept : after.topics.map Topic.uncounted = hub.topics.map Topic.uncounted) :
    after.trackedBy = hub.trackedBy :=
  named_of_uncounted kept fun _ => rfl

/-! ### Rounds of monitors -/

theorem connections_probe (hub : Hub) (t : Nat) :
    (hub.onTopic t Topic.probe).2.connections =
      hub.connections.updateEach (hub.trackedBy t) fun conn => conn.probe.2 := by
  cases here : hub.topics[t]? with
  | none =>
      rw [onTopic_of_none here, trackedBy, named_of_none here]
      rfl
  | some topic =>
      rw [connections_onTopic here, Topic.probe, Topic.probeIn, snd_probeEach, trackedBy,
        named_of_here here]

theorem connections_probeTimes_eq (hub : Hub) (t rounds : Nat) :
    (hub.probeTimes t rounds).connections =
      hub.connections.updateEach ((List.replicate rounds t).flatMap hub.trackedBy)
        fun conn => conn.probe.2 := by
  induction rounds generalizing hub with
  | zero => rfl
  | succ rounds ih =>
      have tracked : (hub.onTopic t Topic.probe).2.trackedBy = hub.trackedBy :=
        trackedBy_of_uncounted Continues.probe.topics
      rw [probeTimes, ih, tracked, connections_probe, List.replicate_succ, List.flatMap_cons,
        Connections.updateEach_append]

theorem connections_runMonitors_eq (hub : Hub) (monitors : List Monitor) :
    (hub.runMonitors monitors).connections =
      hub.connections.updateEach ((roundTopics hub.now monitors).flatMap hub.trackedBy)
        fun conn => conn.probe.2 := by
  induction monitors generalizing hub with
  | nil => rfl
  | cons monitor others ih =>
      have tracked : (hub.afterRounds monitor).trackedBy = hub.trackedBy :=
        trackedBy_of_uncounted (Continues.afterRounds monitor).topics
      have now : (hub.afterRounds monitor).now = hub.now := now_probeTimes hub _ _
      have first : (hub.afterRounds monitor).connections = _ :=
        connections_probeTimes_eq hub monitor.topic (monitor.catchUp hub.now).1
      rw [runMonitors_cons, ih, tracked, now, first, ← Connections.updateEach_append,
        ← List.flatMap_append]
      rfl

/-- A hub whose clock has moved, before the monitors that are ready run. -/
def beforeRounds (hub : Hub) (span : Span) : Hub :=
  { hub with
    now := hub.now + span
    monitors := hub.monitors.filter fun monitor => !monitor.isReady (hub.now + span) }

theorem advance_eq (hub : Hub) (span : Span) :
    hub.advance span = (hub.beforeRounds span).runMonitors (hub.readyAfter span) := by
  simp [advance, List.partition_eq_filter_filter, beforeRounds, readyAfter, Function.comp_def]

/-! ### Every event -/

/-- An event does its one thing to the connections that it reaches, and adds what it adds. -/
theorem connections_step_eq (hub : Hub) (event : Event) :
    (hub.step event).2.connections =
      hub.connections.updateEach (hub.reached event) event.effect ++ hub.added event := by
  have single {α : Type} (ref : ConnRef) (f : Connection → α × Connection)
      (g : Connection → Connection) (does : ∀ conn, (f conn).2 = g conn) :
      (hub.onConnection ref f).2.connections = hub.connections.updateEach [ref] g ++ [] := by
    rw [connections_onConnection, List.append_nil, Connections.updateEach_singleton, funext does]
  cases event with
  | attach t peer channel =>
      cases here : hub.topics[t]? with
      | none =>
          rw [step_attach_of_none here, added, here]
          exact (List.append_nil _).symm
      | some topic =>
          rw [step_attach here, added, here]
          rfl
  | detach t ref =>
      refine Eq.trans ?_ (List.append_nil _).symm
      cases here : hub.topics[t]? with
      | none =>
          have beyond : ¬ t < hub.topics.length := Nat.not_lt.2 (List.getElem?_eq_none_iff.1 here)
          rw [step_detach_of_none (.inl here), reached, if_neg beyond]
          rfl
      | some topic =>
          rw [reached, if_pos (List.getElem?_eq_some_iff.1 here).1]
          cases present : hub.connections[ref]? with
          | none =>
              rw [step_detach_of_none (.inr present)]
              symm
              exact List.modify_eq_self (List.getElem?_eq_none_iff.1 present)
          | some conn =>
              rw [step_detach here present]
              rfl
  | broadcast t channel payload =>
      have stays : (hub.step (.broadcast t channel payload)).2 =
          (hub.onTopic t fun topic conns => topic.broadcast conns channel payload).2 := rfl
      refine Eq.trans ?_ (List.append_nil _).symm
      rw [stays, reached, listedBy]
      cases here : hub.topics[t]? with
      | none =>
          rw [onTopic_of_none here, named_of_none here]
          rfl
      | some topic =>
          rw [connections_onTopic here, named_of_here here, Topic.broadcast, Topic.broadcastTo,
            snd_sendEach]
          rfl
  | probe t => exact (connections_probe hub t).trans (List.append_nil _).symm
  | terminateAll t =>
      have stays : (hub.step (.terminateAll t)).2 =
          (hub.onTopic t fun topic conns =>
            ((topic.terminateAll conns).1, topic, (topic.terminateAll conns).2)).2 := rfl
      refine Eq.trans ?_ (List.append_nil _).symm
      rw [stays, reached, trackedBy]
      cases here : hub.topics[t]? with
      | none =>
          rw [onTopic_of_none here, named_of_none here]
          rfl
      | some topic =>
          rw [connections_onTopic here, named_of_here here, Topic.terminateAll, terminateEach_eq]
          rfl
  | terminate ref => exact single ref _ _ fun _ => rfl
  | markAlive ref => exact single ref _ _ fun _ => rfl
  | receive ref => exact single ref _ _ fun _ => rfl
  | receiveControl ref => exact single ref _ _ fun _ => rfl
  | dropQueues ref => exact single ref _ _ fun _ => rfl
  | spawnMonitor t =>
      have same : (hub.spawnMonitor t).connections = hub.connections := by
        unfold spawnMonitor
        split <;> rfl
      exact same.trans (List.append_nil _).symm
  | advance span =>
      refine Eq.trans ?_ (List.append_nil _).symm
      change (hub.advance span).connections = _
      rw [advance_eq, connections_runMonitors_eq]
      rfl

/-- A connection that is there undergoes the effect of an event as often as the event reaches it. -/
theorem getElem?_step {conn : Connection} (present : hub.connections[ref]? = some conn)
    (event : Event) :
    (hub.step event).2.connections[ref]? =
      some (event.effect^[(hub.reached event).count ref] conn) := by
  have reaches : (hub.connections.updateEach (hub.reached event) event.effect)[ref]? =
      some (event.effect^[(hub.reached event).count ref] conn) := by
    rw [Connections.getElem?_updateEach, present, Option.map_some]
  rw [connections_step_eq, List.getElem?_append_left (List.getElem?_eq_some_iff.1 reaches).1,
    reaches]

end Hub

end LiveRelay
