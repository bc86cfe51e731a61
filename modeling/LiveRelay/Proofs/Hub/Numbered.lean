/-
Module: LiveRelay.Proofs.Hub.Numbered
Purpose: As long as numbers have not run out, a topic counts as active the connections that it tracks,
  and the number of its next connection is one more than the connections it has counted in all.
Main exports: Table.size_insert, Table.size_erase, Topic.Numbered, Hub.Onward, Hub.Onward.terminated,
  Hub.Numbered, Hub.Numbered.onward
-/
import LiveRelay.Proofs.Hub.Counting
import LiveRelay.Proofs.Hub.Queued
import LiveRelay.Proofs.Latency

namespace LiveRelay

open Net

/-! ### How many entries a table has -/

namespace Table

variable {κ ν : Type} [DecidableEq κ] {table : Table κ ν} {key : κ}

theorem size_insert (fresh : table.contains key = false) (value : ν) :
    (table.insert key value).size = table.size + 1 := by
  have others : without key table.entries = table.entries := by
    refine List.filter_eq_self.2 fun entry member => ?_
    have different := List.any_eq_false.1 fresh entry member
    simpa using different
  change (without key table.entries ++ [(key, value)]).length = _
  rw [others, List.length_append]
  rfl

theorem size_erase (present : table.contains key = true) :
    (table.erase key).size + 1 = table.size := by
  obtain ⟨value, member⟩ := contains_iff.1 present
  have once : table.entries.countP (fun entry => decide (entry.1 = key)) = 1 := by
    have counted := List.count_eq_one_of_mem table.distinct (List.mem_map_of_mem member)
    rw [List.count, List.countP_map] at counted
    refine Eq.trans (List.countP_congr fun entry _ => ?_) counted
    simp
  have parts := List.length_eq_countP_add_countP (fun entry : κ × ν => decide (entry.1 = key))
    (l := table.entries)
  rw [once, List.countP_eq_length_filter, Nat.add_comm] at parts
  refine Eq.trans ?_ parts.symm
  simp [size, erase, without]

end Table

namespace Topic

/-! ### One topic -/

/-- A topic numbers its connections in the order in which it counts them, it has counted at most so
many, and those that it counts as active are the ones that it tracks. -/
structure Numbered (limit : Nat) (topic : Topic) : Prop where
  next : topic.nextId = topic.stats.connectionsTotal + 1
  few : topic.stats.connectionsTotal.toNat ≤ limit
  used : ∀ entry ∈ topic.tracker.entries, entry.1 ≤ topic.stats.connectionsTotal
  active : topic.stats.connectionsActive = UInt64.ofNat topic.tracker.size

namespace Numbered

variable {limit : Nat} {topic other : Topic}

theorem new (config : TopicConfig) (relay : RelayConfig) : Numbered 0 (Topic.new config relay) where
  next := rfl
  few := Nat.le_refl 0
  used := fun _ member => absurd member List.not_mem_nil
  active := rfl

theorem mono {more : Nat} (numbered : Numbered limit topic) (atMost : limit ≤ more) :
    Numbered more topic :=
  ⟨numbered.next, Nat.le_trans numbered.few atMost, numbered.used, numbered.active⟩

/-- The numbers of a topic have no part in what it counts of data, sources and probes. -/
theorem congr (numbered : Numbered limit topic) (next : other.nextId = topic.nextId)
    (tracker : other.tracker = topic.tracker)
    (total : other.stats.connectionsTotal = topic.stats.connectionsTotal)
    (active : other.stats.connectionsActive = topic.stats.connectionsActive) :
    Numbered limit other where
  next := by rw [next, total, numbered.next]
  few := total ▸ numbered.few
  used := by
    rw [tracker, total]
    exact numbered.used
  active := by rw [active, tracker, numbered.active]

/-- One more connection is attached, and its number is not in use. -/
theorem join (numbered : Numbered limit topic) (room : limit + 1 < UInt64.size)
    (channel : Option Channel) (ref : ConnRef) : Numbered (limit + 1) (topic.join channel ref) := by
  have counted : (topic.join channel ref).stats.connectionsTotal =
      topic.stats.connectionsTotal + 1 := by
    rw [stats_join]
    rfl
  have bound := Nat.lt_of_le_of_lt (Nat.succ_le_succ numbered.few) room
  have total : (topic.stats.connectionsTotal + 1).toNat =
      topic.stats.connectionsTotal.toNat + 1 :=
    (UInt64.toNat_add _ _).trans (Nat.mod_eq_of_lt bound)
  have fresh : topic.tracker.contains topic.nextId = false := by
    rw [← Bool.not_eq_true, Table.contains_iff]
    rintro ⟨place, member⟩
    have atMost := UInt64.le_iff_toNat_le.1 (numbered.used _ member)
    rw [numbered.next, total] at atMost
    exact absurd atMost (Nat.not_succ_le_self _)
  constructor
  case next => rw [nextId_join, counted, numbered.next]
  case few =>
    rw [counted, total]
    exact Nat.succ_le_succ numbered.few
  case used =>
    intro entry member
    rw [tracker_join, Table.mem_insert] at member
    rw [counted]
    rcases member with rfl | ⟨member, _⟩
    · exact UInt64.le_of_eq numbered.next
    · have atMost := UInt64.le_iff_toNat_le.1 (numbered.used entry member)
      rw [UInt64.le_iff_toNat_le, total]
      exact Nat.le_succ_of_le atMost
  case active =>
    rw [stats_join, tracker_join, Table.size_insert fresh, UInt64.ofNat_add, ← numbered.active]
    rfl

/-- A connection is detached, whether it was tracked or not. -/
theorem release (numbered : Numbered limit topic) (id : ConnId) (channel : Option Channel) :
    Numbered limit (topic.release id channel) := by
  have counted : (topic.release id channel).stats.connectionsTotal =
      topic.stats.connectionsTotal := by
    rw [stats_release]
    split <;> rfl
  constructor
  case next => rw [nextId_release, counted, numbered.next]
  case few => exact counted ▸ numbered.few
  case used =>
    intro entry member
    rw [counted]
    exact numbered.used entry (mem_tracker_release.1 member).1
  case active =>
    rw [stats_release, Topic.release, untrack, tracker_withdraw]
    split
    · next tracked =>
      have one := congrArg UInt64.ofNat (Table.size_erase tracked)
      rw [UInt64.ofNat_add, ← numbered.active] at one
      change topic.stats.connectionsActive - 1 = UInt64.ofNat (topic.tracker.erase id).size
      rw [← one]
      exact UInt64.add_sub_cancel _ _
    · rw [tracker_withdraw, numbered.active]

end Numbered

/-- The topic without what it counted of sources. -/
def unfed (topic : Topic) : Topic :=
  { topic with stats := { topic.stats with ingestTotal := 0, ingestActive := 0 } }

end Topic

namespace Hub

variable {before middle after hub : Hub} {ref : ConnRef}

/-! ### Later states of a hub -/

theorem length_step (hub : Hub) (event : Event) :
    (hub.step event).2.connections.length =
      hub.connections.length + (hub.added event).length := by
  rw [connections_step_eq, List.length_append, Connections.length_updateEach]

/-- A later state of a hub: things happen to it, and sources are counted. -/
inductive Onward (before : Hub) : Hub → Prop
  | still : Onward before before
  | happens {hub : Hub} (onward : Onward before hub) (event : Event) :
      Onward before (hub.step event).2
  | counts {hub after : Hub} (onward : Onward before hub)
      (topics : after.topics.map Topic.unfed = hub.topics.map Topic.unfed)
      (connections : after.connections = hub.connections) : Onward before after

namespace Onward

theorem trans (one : before.Onward middle) (two : middle.Onward after) : before.Onward after := by
  induction two with
  | still => exact one
  | happens _ event ih => exact ih.happens event
  | counts _ topics connections ih => exact ih.counts topics connections

theorem event (hub : Hub) (event : Event) : hub.Onward (hub.step event).2 := still.happens event

/-- A connection that is terminated is so ever after. -/
theorem terminated (onward : before.Onward after) (shut : before.isTerminated ref = true) :
    after.isTerminated ref = true := by
  induction onward with
  | still => exact shut
  | happens _ event ih => exact isTerminated_of_terminated ih event
  | counts _ _ connections ih =>
      rw [isTerminated, connections]
      exact ih

theorem length_le (onward : before.Onward after) :
    before.connections.length ≤ after.connections.length := by
  induction onward with
  | still => exact Nat.le_refl _
  | happens _ event ih => exact Nat.le_trans ih (length_step _ event ▸ Nat.le_add_right _ _)
  | counts _ _ connections ih => exact connections ▸ ih

end Onward

/-! ### The topics of a hub -/

/-- As long as there are fewer connections than numbers, every topic has its numbers in order. -/
def Numbered (hub : Hub) : Prop :=
  hub.connections.length < UInt64.size → ∀ (t : Nat) (topic : Topic),
    hub.topics[t]? = some topic → topic.Numbered hub.connections.length

namespace Numbered

theorem step (numbered : Numbered hub) (event : Event) : Numbered (hub.step event).2 := by
  intro few t later next
  rw [length_step] at few ⊢
  obtain ⟨topic, here, same⟩ := topic_of_step next
  have was := numbered (Nat.lt_of_le_of_lt (Nat.le_add_right _ _) few) t topic here
  suffices becomes : (hub.becomes t topic event).Numbered
      (hub.connections.length + (hub.added event).length) by
    exact becomes.congr (congrArg (fun topic => topic.nextId) same)
      (congrArg (fun topic => topic.tracker) same)
      (congrArg (fun topic => topic.stats.connectionsTotal) same)
      (congrArg (fun topic => topic.stats.connectionsActive) same)
  have still := was.mono (Nat.le_add_right _ (hub.added event).length)
  cases event with
  | attach s peer channel =>
      rw [becomes]
      split
      · next own =>
        subst own
        rw [added, here] at few ⊢
        exact was.join few channel _
      · exact still
  | detach s ref =>
      rw [becomes]
      split
      · cases hub.connections[ref]? with
        | none => exact still
        | some conn => exact still.release conn.id conn.channel
      · exact still
  | broadcast s channel payload =>
      rw [becomes]
      split
      · exact still.congr rfl rfl rfl rfl
      · exact still
  | _ => exact still

/-- At every later time the topics have their numbers in order. -/
theorem onward (numbered : Numbered before) (onward : before.Onward after) : Numbered after := by
  induction onward with
  | still => exact numbered
  | happens _ event ih => exact ih.step event
  | counts _ topics connections ih =>
      intro few t later next
      rw [connections] at few ⊢
      obtain ⟨topic, here, same⟩ := exists_getElem?_of_map_eq topics next
      exact (ih few t topic here).congr (congrArg (fun topic => topic.nextId) same).symm
        (congrArg (fun topic => topic.tracker) same).symm
        (congrArg (fun topic => topic.stats.connectionsTotal) same).symm
        (congrArg (fun topic => topic.stats.connectionsActive) same).symm

end Numbered

end Hub

end LiveRelay
