/-
Module: LiveRelay.Proofs.Hub.Fed
Purpose: What a topic has counted of its sources matters to nothing but these counters: a hub that
  counted other sources answers every event alike, and differs afterwards as it did before.
Main exports: Topic.fed, Hub.fed, Hub.TakesNoNotice, Hub.onTopic_fed, Hub.step_fed
-/
import LiveRelay.Proofs.Hub.Watch
import Mathlib.Data.UInt
import Mathlib.Tactic.Abel

namespace LiveRelay

open Net

namespace TopicStats

/-- The counters after sources came, in all and for now. -/
def fed (stats : TopicStats) (total active : UInt64) : TopicStats :=
  { stats with
    ingestTotal := stats.ingestTotal + total
    ingestActive := stats.ingestActive + active }

variable {stats : TopicStats} {total active : UInt64}

theorem ingestStarted_fed :
    (stats.fed total active).ingestStarted = stats.ingestStarted.fed total active := by
  simp only [fed, ingestStarted, add_right_comm]

theorem ingestEnded_fed :
    (stats.fed total active).ingestEnded = stats.ingestEnded.fed total active := by
  simp only [fed, ingestEnded, sub_add_eq_add_sub]

/-- One of the sources goes. -/
theorem ingestEnded_fed_one : (stats.fed total 1).ingestEnded = stats.fed total 0 := by
  simp only [fed, ingestEnded, add_sub_cancel_right, add_zero]

end TopicStats

namespace Topic

/-- The topic after sources came, in all and for now. -/
def fed (topic : Topic) (total active : UInt64) : Topic :=
  { topic with stats := topic.stats.fed total active }

theorem enroll_fed (topic : Topic) (id : ConnId) (channel : Option Channel) (ref : ConnRef)
    (total active : UInt64) :
    (topic.fed total active).enroll id channel ref =
      (topic.enroll id channel ref).fed total active := by
  cases channel with
  | none => rfl
  | some name =>
      by_cases known : topic.isKnown name = true
      · have still : (topic.fed total active).isKnown name = true := known
        rw [enroll_of_known known, enroll_of_known still]
        rfl
      · have still : ¬ (topic.fed total active).isKnown name = true := known
        rw [enroll_of_unknown known, enroll_of_unknown still]

end Topic

namespace Hub

/-- The hub after sources came to a topic, in all and for now. -/
def fed (hub : Hub) (t : Nat) (total active : UInt64) : Hub :=
  { hub with topics := hub.topics.modify t (·.fed total active) }

variable {hub : Hub} {t s : Nat} {total active : UInt64}

@[simp] theorem connections_fed : (hub.fed t total active).connections = hub.connections := rfl

@[simp] theorem now_fed : (hub.fed t total active).now = hub.now := rfl

theorem getElem?_topics_fed :
    (hub.fed t total active).topics[s]? =
      hub.topics[s]?.map fun topic => if t = s then topic.fed total active else topic := by
  change (hub.topics.modify t _)[s]? = _
  rw [List.getElem?_modify]
  split <;> simp

/-! ### One topic -/

/-- A change of a topic and the connections that takes no notice of the sources. -/
def TakesNoNotice {α : Type} (f : Topic → Connections → α × Topic × Connections) : Prop :=
  ∀ total active topic conns,
    f (topic.fed total active) conns =
      ((f topic conns).1, (f topic conns).2.1.fed total active, (f topic conns).2.2)

theorem onTopic_fed {α : Type} {f : Topic → Connections → α × Topic × Connections}
    (blind : TakesNoNotice f) :
    (hub.fed t total active).onTopic s f =
      ((hub.onTopic s f).1, (hub.onTopic s f).2.fed t total active) := by
  unfold onTopic
  rw [getElem?_topics_fed]
  cases here : hub.topics[s]? with
  | none => rfl
  | some topic =>
      simp only [Option.map_some, connections_fed]
      have swap (later : Topic) : (hub.topics.set s later).modify t (·.fed total active) =
          (hub.topics.modify t (·.fed total active)).set s
            (if t = s then later.fed total active else later) := by
        refine List.ext_getElem? fun i => ?_
        simp only [List.getElem?_modify, List.getElem?_set, List.length_modify]
        grind
      split
      · next own =>
        rw [blind]
        simp only [fed, swap, if_pos own]
      · next other => simp only [fed, swap, if_neg other]

/-- Counting something on a topic does this to the topic, and nothing else. -/
theorem count_eq (f : TopicStats → TopicStats) :
    (hub.onTopic s fun topic conns => ((), { topic with stats := f topic.stats }, conns)).2 =
      { hub with
        topics := hub.topics.modify s fun topic => { topic with stats := f topic.stats } } := by
  rw [onTopic, List.modify_eq_set_getElem?]
  cases hub.topics[s]? <;> rfl

theorem takesNoNotice_attach (peer : SocketAddress) (channel : Option Channel) :
    TakesNoNotice fun topic conns => topic.attach conns peer channel := by
  intro total active topic conns
  have join : (topic.fed total active).join channel conns.length =
      (topic.join channel conns.length).fed total active :=
    Topic.enroll_fed (topic.takeId.track topic.nextId conns.length).countOpened _ _ _ _ _
  simp only [Topic.attach_eq, join]
  rfl

theorem takesNoNotice_detach (ref : ConnRef) :
    TakesNoNotice fun topic conns => ((), topic.detach conns ref) := by
  intro total active topic conns
  cases present : conns[ref]? with
  | none => simp only [Topic.detach, present]
  | some conn =>
      have release : (topic.fed total active).release conn.id conn.channel =
          (topic.release conn.id conn.channel).fed total active := by
        have tracker : ((topic.fed total active).withdraw conn.id conn.channel).tracker =
            (topic.withdraw conn.id conn.channel).tracker := by
          rw [Topic.tracker_withdraw, Topic.tracker_withdraw]
          rfl
        rw [Topic.release, Topic.release, Topic.untrack, Topic.untrack, tracker]
        cases conn.channel <;> split <;> rfl
      simp only [Topic.detach_eq present, release]

theorem takesNoNotice_broadcast (channel : Channel) (payload : Payload) :
    TakesNoNotice fun topic conns => topic.broadcast conns channel payload :=
  fun _ _ _ _ => rfl

theorem takesNoNotice_probe : TakesNoNotice Topic.probe := fun _ _ _ _ => rfl

theorem takesNoNotice_terminateAll :
    TakesNoNotice fun topic conns =>
      ((topic.terminateAll conns).1, topic, (topic.terminateAll conns).2) :=
  fun _ _ _ _ => rfl

/-! ### The whole hub -/

theorem probeTimes_fed (rounds : Nat) :
    (hub.fed t total active).probeTimes s rounds = (hub.probeTimes s rounds).fed t total active := by
  induction rounds generalizing hub with
  | zero => rfl
  | succ rounds ih => rw [probeTimes, probeTimes, onTopic_fed takesNoNotice_probe, ih]

theorem runMonitors_fed (monitors : List Monitor) :
    (hub.fed t total active).runMonitors monitors =
      (hub.runMonitors monitors).fed t total active := by
  induction monitors generalizing hub with
  | nil => rfl
  | cons monitor others ih =>
      have rounds : (hub.fed t total active).afterRounds monitor =
          (hub.afterRounds monitor).fed t total active := by
        simp only [afterRounds, now_fed, probeTimes_fed]
        rfl
      rw [runMonitors_cons, runMonitors_cons, rounds, ih]

theorem advance_fed (span : Span) :
    (hub.fed t total active).advance span = (hub.advance span).fed t total active := by
  simp only [advance, ← runMonitors_fed]
  rfl

theorem spawnMonitor_fed :
    (hub.fed t total active).spawnMonitor s = (hub.spawnMonitor s).fed t total active := by
  unfold spawnMonitor
  rw [getElem?_topics_fed]
  cases hub.topics[s]? with
  | none => rfl
  | some topic =>
      have same : (if t = s then topic.fed total active else topic).probeInterval =
          topic.probeInterval := by
        split <;> rfl
      simp only [Option.map_some, same]
      rfl

/-- At every event a hub that has counted other sources answers the same, and goes on the same but
for them. -/
theorem step_fed (event : Event) :
    (hub.fed t total active).step event =
      ((hub.step event).1, (hub.step event).2.fed t total active) := by
  cases event with
  | attach s peer channel => simp only [step, onTopic_fed (takesNoNotice_attach peer channel)]
  | detach s ref => simp only [step, onTopic_fed (takesNoNotice_detach ref)]
  | broadcast s channel payload =>
      simp only [step, onTopic_fed (takesNoNotice_broadcast channel payload)]
  | probe s => simp only [step, onTopic_fed takesNoNotice_probe]
  | terminateAll s => simp only [step, onTopic_fed takesNoNotice_terminateAll]
  | spawnMonitor s => simp only [step, spawnMonitor_fed]
  | advance span => simp only [step, advance_fed]
  | terminate ref => rfl
  | markAlive ref => rfl
  | receive ref => rfl
  | receiveControl ref => rfl
  | dropQueues ref => rfl

end Hub

end LiveRelay
