/-
Module: LiveRelay.Proofs.Hub.Counting
Purpose: What each event makes of a topic, counters included. Only the count of what probe rounds
  terminate is left out.
Main exports: Topic.unprobed, Topic.stats_join, Topic.stats_release, Hub.becomes,
  Hub.step_broadcast, Hub.topic_step, Hub.topic_of_step
-/
import LiveRelay.Proofs.Hub.Concern

namespace LiveRelay

open Net

namespace Topic

/-- A topic without the count of what its rounds terminated. -/
def unprobed (topic : Topic) : Topic :=
  { topic with stats := { topic.stats with livenessTerminations := 0 } }

theorem stats_join (topic : Topic) (channel : Option Channel) (ref : ConnRef) :
    (topic.join channel ref).stats = topic.stats.connectionOpened :=
  stats_enroll _ _

theorem stats_release (topic : Topic) (id : ConnId) (channel : Option Channel) :
    (topic.release id channel).stats =
      if topic.tracker.contains id then topic.stats.connectionClosed else topic.stats := by
  rw [release, untrack, tracker_withdraw]
  split
  · exact congrArg TopicStats.connectionClosed (stats_withdraw id)
  · exact stats_withdraw id

end Topic

namespace Hub

/-- What an event makes of topic `t`, apart from the count of what its rounds terminate. -/
def becomes (hub : Hub) (t : Nat) (topic : Topic) : Event → Topic
  | .attach s _ channel => if s = t then topic.join channel hub.connections.length else topic
  | .detach s ref =>
    if s = t then hub.connections[ref]?.elim topic fun conn => topic.release conn.id conn.channel
    else topic
  | .broadcast s channel payload =>
    if s = t then (topic.broadcast hub.connections channel payload).2.1 else topic
  | _ => topic

variable {hub after : Hub} {t s : Nat} {topic : Topic} {ref : ConnRef} {event : Event}

theorem topics_onTopic {α : Type} {f : Topic → Connections → α × Topic × Connections}
    (here : hub.topics[t]? = some topic) :
    (hub.onTopic t f).2.topics = hub.topics.set t (f topic hub.connections).2.1 := by
  rw [onTopic, here]

/-- A broadcast is counted on its topic and offered to the open subscribers of the channel. -/
theorem step_broadcast (here : hub.topics[t]? = some topic) (channel : Channel)
    (payload : Payload) :
    hub.step (.broadcast t channel payload) =
      (.fannedOut (topic.broadcast hub.connections channel payload).1,
        { hub with
          topics := hub.topics.set t (topic.broadcast hub.connections channel payload).2.1
          connections := (topic.broadcast hub.connections channel payload).2.2 }) := by
  simp [step, onTopic, here]

/-! ### Events that count nothing else -/

/-- Between two states of a hub, topics changed at most in what their rounds terminated. -/
def Probes (before after : Hub) : Prop :=
  after.topics.map Topic.unprobed = before.topics.map Topic.unprobed

namespace Probes

theorem refl (hub : Hub) : hub.Probes hub := rfl

theorem trans {before middle after : Hub} (one : before.Probes middle) (two : middle.Probes after) :
    before.Probes after := Eq.trans two one

theorem onTopic {α : Type} {f : Topic → Connections → α × Topic × Connections}
    (kept : ∀ topic, (f topic hub.connections).2.1.unprobed = topic.unprobed) :
    hub.Probes (hub.onTopic t f).2 := by
  cases here : hub.topics[t]? with
  | none =>
      rw [onTopic_of_none here]
      exact refl hub
  | some topic =>
      rw [Probes, topics_onTopic here]
      exact map_set_of_eq here (kept topic)

theorem probeTimes (rounds : Nat) : hub.Probes (hub.probeTimes t rounds) := by
  induction rounds generalizing hub with
  | zero => exact refl hub
  | succ rounds ih => exact (onTopic fun _ => rfl).trans ih

theorem runMonitors (monitors : List Monitor) : hub.Probes (hub.runMonitors monitors) := by
  induction monitors generalizing hub with
  | nil => exact refl hub
  | cons monitor others ih =>
      have first : hub.Probes (hub.afterRounds monitor) := probeTimes _
      rw [runMonitors_cons]
      exact first.trans ih

theorem spawnMonitor : hub.Probes (hub.spawnMonitor t) := by
  unfold Hub.spawnMonitor
  split <;> exact refl hub

end Probes

/-! ### Every event -/

theorem ne_of_topic (here : hub.topics[t]? = some topic) (there : hub.topics[s]? = none) :
    s ≠ t := by
  rintro rfl
  cases there.symm.trans here

/-- What is made of one topic leaves the others as they are. -/
theorem topic_of_set (here : hub.topics[t]? = some topic) {other : Topic}
    (there : hub.topics[s]? = some other) (make : Topic → Topic)
    (topics : after.topics = hub.topics.set s (make other)) :
    after.topics[t]? = some (if s = t then make topic else topic) := by
  rw [topics]
  by_cases same : s = t
  · subst same
    obtain rfl := Option.some.inj (there.symm.trans here)
    rw [List.getElem?_set_self (List.getElem?_eq_some_iff.1 here).1, if_pos rfl]
  · rw [List.getElem?_set_ne same, if_neg same]
    exact here

/-- Every event makes of a topic what it should, apart from the count of what its rounds
terminate. -/
theorem topic_step (here : hub.topics[t]? = some topic) (event : Event) :
    ∃ later, (hub.step event).2.topics[t]? = some later ∧
      later.unprobed = (hub.becomes t topic event).unprobed := by
  have still (same : hub.becomes t topic event = topic) (probes : hub.Probes (hub.step event).2) :
      ∃ later, (hub.step event).2.topics[t]? = some later ∧
        later.unprobed = (hub.becomes t topic event).unprobed := by
    rw [same]
    exact exists_getElem?_of_map_eq probes.symm here
  have nothing (same : hub.becomes t topic event = topic) (stays : (hub.step event).2 = hub) :
      ∃ later, (hub.step event).2.topics[t]? = some later ∧
        later.unprobed = (hub.becomes t topic event).unprobed :=
    still same (by rw [stays]; exact .refl hub)
  cases event with
  | attach s peer channel =>
      cases there : hub.topics[s]? with
      | none =>
          exact nothing (if_neg (ne_of_topic here there))
            (congrArg Prod.snd (step_attach_of_none there))
      | some other =>
          exact ⟨_, topic_of_set here there (·.join channel hub.connections.length)
            (congrArg (·.2.topics) (step_attach there)), rfl⟩
  | detach s ref =>
      cases there : hub.topics[s]? with
      | none =>
          exact nothing (if_neg (ne_of_topic here there))
            (step_detach_of_none (.inl there))
      | some other =>
      cases present : hub.connections[ref]? with
      | none =>
          exact nothing (by rw [becomes, present, Option.elim_none, ite_self])
            (step_detach_of_none (.inr present))
      | some conn =>
          refine ⟨_, topic_of_set here there (·.release conn.id conn.channel)
            (congrArg (·.2.topics) (step_detach there present)), ?_⟩
          rw [becomes, present, Option.elim_some]
  | broadcast s channel payload =>
      cases there : hub.topics[s]? with
      | none =>
          exact nothing (if_neg (ne_of_topic here there)) (by simp [step, onTopic, there])
      | some other =>
          exact ⟨_, topic_of_set here there
            (fun topic => (topic.broadcast hub.connections channel payload).2.1)
            (congrArg (·.2.topics) (step_broadcast there channel payload)), rfl⟩
  | probe s => exact still rfl (.onTopic (f := Topic.probe) fun _ => rfl)
  | terminateAll s =>
      exact still rfl (.onTopic (f := fun topic conns => ((topic.terminateAll conns).1, topic,
        (topic.terminateAll conns).2)) fun _ => rfl)
  | spawnMonitor s => exact still rfl .spawnMonitor
  | advance span => exact still rfl (.runMonitors _)
  | terminate | markAlive | receive | receiveControl | dropQueues => exact still rfl (.refl hub)

/-- A topic after an event is what the event made of one that was there, apart from the count of what
its rounds terminate. -/
theorem topic_of_step {later : Topic} (next : (hub.step event).2.topics[t]? = some later) :
    ∃ topic, hub.topics[t]? = some topic ∧
      later.unprobed = (hub.becomes t topic event).unprobed := by
  have within := (List.getElem?_eq_some_iff.1 next).1
  rw [length_topics_step] at within
  have here := List.getElem?_eq_getElem within
  obtain ⟨found, present, same⟩ := topic_step here event
  obtain rfl := Option.some.inj (next.symm.trans present)
  exact ⟨_, here, same⟩

end Hub

end LiveRelay
