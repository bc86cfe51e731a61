/-
Module: LiveRelay.Proofs.Hub.Tidy
Purpose: The tables of a topic name no connection twice, only connections that were attached to the
  topic, and those under no channel but the one that they asked for. This holds after every run,
  also where numbers have run out or a connection was detached on a topic that is not its own.
Main exports: Topic.Tidy, Hub.Tidy, Hub.Tidy.step, Hub.Tidy.run, Hub.Fresh.tidy_run,
  Hub.Tidy.count_trackedBy, Hub.Tidy.count_listedBy, Hub.mem_trackedBy_of_step, Hub.Resident
-/
import LiveRelay.Proofs.Hub.Reach
import Mathlib.Data.List.Perm.Subperm

namespace LiveRelay

open Net

/-! ### Tables -/

theorem Table.values_insert {κ ν : Type} [DecidableEq κ] (table : Table κ ν) (key : κ)
    (value : ν) : (table.insert key value).values.Sublist (table.values ++ [value]) := by
  rw [values, insert, List.map_append]
  exact (List.filter_sublist.map Prod.snd).append (List.Sublist.refl _)

theorem Table.values_erase {κ ν : Type} [DecidableEq κ] (table : Table κ ν) (key : κ) :
    (table.erase key).values.Sublist table.values :=
  List.filter_sublist.map Prod.snd

theorem Registry.membersOf_sublist (registry : Registry) (channel : Channel) :
    (registry.membersOf channel).Sublist registry.members.values :=
  List.filter_sublist.map Prod.snd

namespace Topic

variable {topic : Topic} {channel : Option Channel} {t : Nat} {homes : List Attachment}

theorem values_tracker_join (ref : ConnRef) :
    (topic.join channel ref).tracker.values.Sublist (topic.tracker.values ++ [ref]) := by
  rw [tracker_join]
  exact topic.tracker.values_insert topic.nextId ref

theorem values_tracker_release (id : ConnId) :
    (topic.release id channel).tracker.values.Sublist topic.tracker.values := by
  rw [release, untrack, tracker_withdraw]
  split
  · exact topic.tracker.values_erase id
  · rw [tracker_withdraw]

theorem values_members_enroll (id : ConnId) (ref : ConnRef) :
    (topic.enroll id channel ref).registry.members.values.Sublist
      (topic.registry.members.values ++ [ref]) := by
  cases channel with
  | none => exact List.sublist_append_left _ _
  | some name =>
      by_cases known : topic.isKnown name = true
      · rw [enroll_of_known known]
        exact topic.registry.members.values_insert (name, id) ref
      · rw [enroll_of_unknown known]
        exact List.sublist_append_left _ _

theorem values_members_join (ref : ConnRef) :
    (topic.join channel ref).registry.members.values.Sublist
      (topic.registry.members.values ++ [ref]) :=
  values_members_enroll topic.nextId ref

theorem values_members_release (id : ConnId) :
    (topic.release id channel).registry.members.values.Sublist topic.registry.members.values := by
  rw [release, registry_untrack]
  cases channel with
  | none => exact List.Sublist.refl _
  | some name => exact topic.registry.members.values_erase (name, id)

/-- What the tables of topic `t` name are different connections, all attached to the topic, and the
registered ones under the channel that they asked for. -/
structure Tidy (homes : List Attachment) (t : Nat) (topic : Topic) : Prop where
  tracked_once : topic.tracker.values.Nodup
  tracked_own : ∀ ref ∈ topic.tracker.values, ∃ home, homes[ref]? = some home ∧ home.topic = t
  listed_once : topic.registry.members.values.Nodup
  listed_own : ∀ entry ∈ topic.registry.members.entries, ∃ home,
    homes[entry.2]? = some home ∧ home.topic = t ∧ home.channel = some entry.1.1 ∧
      topic.isKnown entry.1.1 = true

namespace Tidy

theorem new (config : TopicConfig) (relay : RelayConfig) : Tidy [] t (Topic.new config relay) where
  tracked_once := List.nodup_nil
  tracked_own := fun _ member => absurd member List.not_mem_nil
  listed_once := List.nodup_nil
  listed_own := fun _ member => absurd member List.not_mem_nil

theorem of_uncounted {earlier : Topic} (same : topic.uncounted = earlier.uncounted)
    (tidy : Tidy homes t earlier) : Tidy homes t topic := by
  have tracker : topic.uncounted.tracker = earlier.uncounted.tracker := by rw [same]
  have registry : topic.uncounted.registry = earlier.uncounted.registry := by rw [same]
  change topic.tracker = earlier.tracker at tracker
  change topic.registry = earlier.registry at registry
  constructor
  case tracked_once => rw [tracker]; exact tidy.tracked_once
  case tracked_own => rw [tracker]; exact tidy.tracked_own
  case listed_once => rw [registry]; exact tidy.listed_once
  case listed_own => simp only [isKnown, registry]; exact tidy.listed_own

/-- Other connections are attached, on whatever topic. -/
theorem append (tidy : Tidy homes t topic) (more : List Attachment) :
    Tidy (homes ++ more) t topic where
  tracked_once := tidy.tracked_once
  tracked_own := by
    intro ref member
    obtain ⟨home, found, own⟩ := tidy.tracked_own ref member
    exact ⟨home, List.getElem?_append_left (List.getElem?_eq_some_iff.1 found).1 ▸ found, own⟩
  listed_once := tidy.listed_once
  listed_own := by
    intro entry member
    obtain ⟨home, found, own⟩ := tidy.listed_own entry member
    exact ⟨home, List.getElem?_append_left (List.getElem?_eq_some_iff.1 found).1 ▸ found, own⟩

theorem tracked_lt (tidy : Tidy homes t topic) {ref : ConnRef}
    (member : ref ∈ topic.tracker.values) : ref < homes.length := by
  obtain ⟨_, found, _⟩ := tidy.tracked_own ref member
  exact (List.getElem?_eq_some_iff.1 found).1

theorem size_le (tidy : Tidy homes t topic) : topic.tracker.size ≤ homes.length := by
  calc topic.tracker.size = topic.tracker.values.length := (List.length_map _).symm
    _ ≤ (List.range homes.length).length := (tidy.tracked_once.subperm fun ref member =>
        List.mem_range.2 (tidy.tracked_lt member)).length_le
    _ = homes.length := List.length_range

theorem listed_lt (tidy : Tidy homes t topic) {ref : ConnRef}
    (member : ref ∈ topic.registry.members.values) : ref < homes.length := by
  obtain ⟨entry, entered, rfl⟩ := List.mem_map.1 member
  obtain ⟨_, found, _⟩ := tidy.listed_own entry entered
  exact (List.getElem?_eq_some_iff.1 found).1

/-- The next connection joins the topic: it is none of those that the tables name. -/
theorem join (tidy : Tidy homes t topic) (home : Attachment) (own : home.topic = t) :
    Tidy (homes ++ [home]) t (topic.join home.channel homes.length) := by
  have known := isKnown_of_cleared
    (cleared_join homes.length : (topic.join home.channel homes.length).cleared = topic.cleared)
  have found : (homes ++ [home])[homes.length]? = some home := List.getElem?_concat_length
  have later := tidy.append [home]
  constructor
  case tracked_once =>
    refine List.Nodup.sublist (values_tracker_join _) (List.nodup_append.2 ⟨tidy.tracked_once,
      List.nodup_singleton _, ?_⟩)
    intro ref member other last
    rw [List.mem_singleton.1 last]
    exact Nat.ne_of_lt (tidy.tracked_lt member)
  case tracked_own =>
    intro ref member
    rcases List.mem_append.1 ((values_tracker_join _).subset member) with member | last
    · exact later.tracked_own ref member
    · rw [List.mem_singleton.1 last]
      exact ⟨home, found, own⟩
  case listed_once =>
    refine List.Nodup.sublist (values_members_join _) (List.nodup_append.2 ⟨tidy.listed_once,
      List.nodup_singleton _, ?_⟩)
    intro ref member other last
    rw [List.mem_singleton.1 last]
    exact Nat.ne_of_lt (tidy.listed_lt member)
  case listed_own =>
    rintro ⟨⟨name, id⟩, ref⟩ member
    rw [known]
    rcases mem_members_join.1 member with ⟨asked, accepted, _, rfl⟩ | ⟨member, _⟩
    · exact ⟨home, found, own, asked, accepted⟩
    · exact later.listed_own _ member

/-- Letting any connection go leaves the rest in place. -/
theorem release (tidy : Tidy homes t topic) (id : ConnId) (channel : Option Channel) :
    Tidy homes t (topic.release id channel) := by
  have known := isKnown_of_cleared
    (cleared_release id : (topic.release id channel).cleared = topic.cleared)
  constructor
  case tracked_once => exact tidy.tracked_once.sublist (values_tracker_release id)
  case tracked_own =>
    intro ref member
    exact tidy.tracked_own ref ((values_tracker_release id).subset member)
  case listed_once => exact tidy.listed_once.sublist (values_members_release id)
  case listed_own =>
    rintro ⟨⟨name, other⟩, ref⟩ member
    rw [known]
    exact tidy.listed_own _ (mem_members_release.1 member).1

end Tidy

end Topic

namespace Hub

/-! ### Every event -/

/-- What the tables of all topics name is in place. -/
structure Tidy (homes : List Attachment) (hub : Hub) : Prop where
  even : homes.length = hub.connections.length
  tables : ∀ (t : Nat) (topic : Topic), hub.topics[t]? = some topic → topic.Tidy homes t

variable {homes : List Attachment} {hub : Hub} {t : Nat} {ref : ConnRef} {home : Attachment}
  {event : Event} {events : List Event}

theorem Fresh.tidy (fresh : hub.Fresh) : Tidy [] hub where
  even := by rw [fresh.connections]; rfl
  tables := by
    intro t topic here
    obtain ⟨config, relay, rfl⟩ := fresh.topics topic (List.mem_of_getElem? here)
    exact .new config relay

namespace Tidy

theorem of_continues {after : Hub} (tidy : Tidy homes hub) (goes : hub.Continues after) :
    Tidy homes after where
  even := by
    have same : after.connections.length = hub.connections.length := by
      simpa using congrArg List.length goes.bonds
    rw [same]
    exact tidy.even
  tables := by
    intro t topic here
    obtain ⟨earlier, there, uncounted⟩ := exists_getElem?_of_map_eq goes.topics here
    exact (tidy.tables t earlier there).of_uncounted uncounted.symm

theorem attach (tidy : Tidy homes hub) (t : Nat) (peer : SocketAddress)
    (channel : Option Channel) :
    Tidy (homes ++ (hub.attachment? (.attach t peer channel)).toList)
      (hub.step (.attach t peer channel)).2 := by
  cases here : hub.topics[t]? with
  | none =>
      have beyond : ¬ t < hub.topics.length := Nat.not_lt.2 (List.getElem?_eq_none_iff.1 here)
      rw [step_attach_of_none here, attachment?, if_neg beyond, Option.toList_none, List.append_nil]
      exact tidy
  | some topic =>
      have within : t < hub.topics.length := (List.getElem?_eq_some_iff.1 here).1
      rw [step_attach here, attachment?, if_pos within, Option.toList_some]
      refine ⟨by simp [tidy.even], fun other later present => ?_⟩
      by_cases same : t = other
      · subst same
        obtain rfl : topic.join channel hub.connections.length = later := by
          rw [List.getElem?_set_self within] at present
          exact Option.some.inj present
        rw [← tidy.even]
        exact (tidy.tables t topic here).join ⟨t, peer, channel⟩ rfl
      · rw [List.getElem?_set_ne same] at present
        exact (tidy.tables other later present).append _

theorem detach (tidy : Tidy homes hub) (t : Nat) (ref : ConnRef) :
    Tidy homes (hub.step (.detach t ref)).2 := by
  cases here : hub.topics[t]? with
  | none =>
      rw [step_detach_of_none (.inl here)]
      exact tidy
  | some topic =>
  cases there : hub.connections[ref]? with
  | none =>
      rw [step_detach_of_none (.inr there)]
      exact tidy
  | some conn =>
      have within : t < hub.topics.length := (List.getElem?_eq_some_iff.1 here).1
      rw [step_detach here there]
      refine ⟨by simp [Connections.update, tidy.even], fun other later present => ?_⟩
      by_cases same : t = other
      · subst same
        obtain rfl : topic.release conn.id conn.channel = later := by
          rw [List.getElem?_set_self within] at present
          exact Option.some.inj present
        exact (tidy.tables t topic here).release conn.id conn.channel
      · rw [List.getElem?_set_ne same] at present
        exact tidy.tables other later present

/-- Every event leaves the tables in place. -/
theorem step (tidy : Tidy homes hub) (event : Event) :
    Tidy (homes ++ (hub.attachment? event).toList) (hub.step event).2 := by
  have alone {after : Hub} (kept : Tidy homes after) : Tidy (homes ++ []) after := by
    rwa [List.append_nil]
  cases event with
  | attach t peer channel => exact tidy.attach t peer channel
  | detach t ref => exact alone (tidy.detach t ref)
  | _ => exact alone (tidy.of_continues (Continues.step _ (by simp) (by simp)))

/-- A whole run leaves the tables in place. -/
theorem run (tidy : Tidy homes hub) (events : List Event) :
    Tidy (homes ++ hub.attachments events) (hub.run events).2 := by
  induction events generalizing homes hub with
  | nil =>
      rw [attachments, List.filterMap_nil, List.append_nil]
      exact tidy
  | cons event others ih =>
      have rest := ih (tidy.step event)
      rw [attachments_step, List.append_assoc, ← attachments_cons] at rest
      exact rest

end Tidy

theorem Fresh.tidy_run (fresh : hub.Fresh) (events : List Event) :
    Tidy (hub.attachments events) (hub.run events).2 := by
  have tidy := fresh.tidy.run events
  rwa [List.nil_append] at tidy

/-! ### Who is named how often -/

namespace Tidy

theorem nodup_trackedBy (tidy : Tidy homes hub) (t : Nat) : (hub.trackedBy t).Nodup := by
  rw [trackedBy]
  cases here : hub.topics[t]? with
  | none => rw [named_of_none here]; exact List.nodup_nil
  | some topic => rw [named_of_here here]; exact (tidy.tables t topic here).tracked_once

theorem nodup_listedBy (tidy : Tidy homes hub) (t : Nat) (channel : Channel) :
    (hub.listedBy t channel).Nodup := by
  rw [listedBy]
  cases here : hub.topics[t]? with
  | none => rw [named_of_none here]; exact List.nodup_nil
  | some topic =>
      rw [named_of_here here]
      exact (tidy.tables t topic here).listed_once.sublist (topic.registry.membersOf_sublist _)

/-- A topic tracks only connections of its own. -/
theorem topic_of_mem_trackedBy (tidy : Tidy homes hub) (found : homes[ref]? = some home)
    (member : ref ∈ hub.trackedBy t) : home.topic = t := by
  rw [trackedBy] at member
  cases here : hub.topics[t]? with
  | none => rw [named_of_none here] at member; cases member
  | some topic =>
      rw [named_of_here here] at member
      obtain ⟨other, there, own⟩ := (tidy.tables t topic here).tracked_own ref member
      obtain rfl := Option.some.inj (found.symm.trans there)
      exact own

/-- A topic registers only connections of its own, under known channels that they asked for. -/
theorem home_of_mem_listedBy (tidy : Tidy homes hub) (found : homes[ref]? = some home)
    {channel : Channel} (member : ref ∈ hub.listedBy t channel) :
    home.topic = t ∧ home.channel = some channel ∧ hub.subscribes home = true := by
  rw [listedBy] at member
  cases here : hub.topics[t]? with
  | none => rw [named_of_none here] at member; cases member
  | some topic =>
      rw [named_of_here here, Registry.mem_membersOf] at member
      obtain ⟨id, entered⟩ := member
      obtain ⟨other, there, own, asked, known⟩ := (tidy.tables t topic here).listed_own _ entered
      obtain rfl := Option.some.inj (found.symm.trans there)
      refine ⟨own, asked, ?_⟩
      rw [subscribes, own, here, Option.any_some, asked, Option.any_some]
      exact known

theorem count_trackedBy (tidy : Tidy homes hub) (found : homes[ref]? = some home) (t : Nat) :
    (hub.trackedBy t).count ref =
      if t = home.topic ∧ ref ∈ hub.trackedBy home.topic then 1 else 0 := by
  by_cases member : ref ∈ hub.trackedBy t
  · have own := tidy.topic_of_mem_trackedBy found member
    rw [List.count_eq_one_of_mem (tidy.nodup_trackedBy t) member, own, if_pos ⟨rfl, member⟩]
  · rw [List.count_eq_zero.2 member, if_neg]
    rintro ⟨rfl, tracked⟩
    exact member tracked

/-- Data of a channel reaches a connection at most once: where it is registered and open. -/
theorem count_listedBy (tidy : Tidy homes hub) (t : Nat) (channel : Channel) :
    ((hub.listedBy t channel).filter hub.isOpen).count ref =
      if ref ∈ hub.listedBy t channel ∧ hub.isOpen ref = true then 1 else 0 := by
  have nodup := (tidy.nodup_listedBy t channel).filter hub.isOpen
  split
  · next member => exact List.count_eq_one_of_mem nodup (List.mem_filter.2 member)
  · next absent => exact List.count_eq_zero.2 fun member => absent (List.mem_filter.1 member)

theorem count_roundTopics (now : Span) (monitors : List Monitor) (t : Nat) :
    (roundTopics now monitors).count t = roundsAt monitors now t := by
  induction monitors with
  | nil => rfl
  | cons monitor others ih =>
      rw [roundTopics, List.flatMap_cons, List.count_append, List.count_replicate]
      rw [roundTopics] at ih
      rw [ih]
      by_cases same : monitor.topic = t <;> simp [roundsAt, same]

theorem roundsAt_readyAfter (hub : Hub) (span : Span) (t : Nat) :
    roundsAt (hub.readyAfter span) (hub.now + span) t = hub.roundsDue span t := by
  have same := List.mergeSort_perm (hub.monitors.filter (·.isReady (hub.now + span)))
    fun one other => decide (one.due ≤ other.due)
  exact ((same.filter _).map _).sum_nat

/-- When the clock moves, a connection is probed by the rounds of its topic that are due, as long
as the topic tracks it. -/
theorem count_advance (tidy : Tidy homes hub) (found : homes[ref]? = some home) (span : Span) :
    (hub.reached (.advance span)).count ref =
      if ref ∈ hub.trackedBy home.topic then hub.roundsDue span home.topic else 0 := by
  rw [reached, ← roundsAt_readyAfter, ← count_roundTopics]
  induction roundTopics (hub.now + span) (hub.readyAfter span) with
  | nil => rw [List.flatMap_nil, List.count_nil, List.count_nil, ite_self]
  | cons t others ih =>
      rw [List.flatMap_cons, List.count_append, ih, tidy.count_trackedBy found, List.count_cons]
      by_cases own : t = home.topic
      · by_cases tracked : ref ∈ hub.trackedBy home.topic
        · simp [own, tracked, Nat.add_comm]
        · simp [tracked]
      · simp [own]

end Tidy

/-! ### Nobody is named anew -/

/-- What a topic names of connections that were there, it named before. -/
theorem mem_named_of_step {names : Topic → List ConnRef}
    (blind : ∀ topic, names topic.uncounted = names topic)
    (joins : ∀ topic channel ref, names (topic.join channel ref) ⊆ names topic ++ [ref])
    (releases : ∀ topic id channel, names (topic.release id channel) ⊆ names topic)
    (present : ref < hub.connections.length) (event : Event)
    (member : ref ∈ (hub.step event).2.named names t) : ref ∈ hub.named names t := by
  have replaced {s : Nat} {topic later : Topic} (here : hub.topics[s]? = some topic)
      (names_later : names later ⊆ names topic ++ [hub.connections.length])
      (still : ref ∈ ((hub.topics.set s later)[t]?).elim [] names) : ref ∈ hub.named names t := by
    by_cases same : s = t
    · subst same
      rw [List.getElem?_set_self (List.getElem?_eq_some_iff.1 here).1, Option.elim_some] at still
      rw [named_of_here here]
      rcases List.mem_append.1 (names_later still) with earlier | last
      · exact earlier
      · exact absurd (List.mem_singleton.1 last) (Nat.ne_of_lt present)
    · rwa [List.getElem?_set_ne same] at still
  have kept {after : Hub} (goes : hub.Continues after) (still : ref ∈ after.named names t) :
      ref ∈ hub.named names t := by
    rwa [named_of_uncounted goes.topics blind] at still
  cases event with
  | attach s peer channel =>
      cases here : hub.topics[s]? with
      | none => rwa [step_attach_of_none here] at member
      | some topic =>
          rw [step_attach here] at member
          exact replaced here (joins topic channel _) member
  | detach s other =>
      cases here : hub.topics[s]? with
      | none => rwa [step_detach_of_none (.inl here)] at member
      | some topic =>
      cases there : hub.connections[other]? with
      | none => rwa [step_detach_of_none (.inr there)] at member
      | some conn =>
          rw [step_detach here there] at member
          exact replaced here (List.subset_append_of_subset_left _ (releases topic _ _)) member
  | _ => exact kept (Continues.step _ (by simp) (by simp)) member

/-- A connection that is there is never tracked anew. -/
theorem mem_trackedBy_of_step (present : ref < hub.connections.length) (event : Event)
    (tracked : ref ∈ (hub.step event).2.trackedBy t) : ref ∈ hub.trackedBy t :=
  mem_named_of_step (fun _ => rfl) (fun _ _ ref => (Topic.values_tracker_join ref).subset)
    (fun _ id _ => (Topic.values_tracker_release id).subset) present event tracked

/-! ### One connection -/

/-- Connection `ref` came about as `home` says, on a hub whose tables are in place. -/
structure Resident (homes : List Attachment) (hub : Hub) (ref : ConnRef) (home : Attachment) :
    Prop where
  tidy : Tidy homes hub
  found : homes[ref]? = some home

namespace Resident

theorem lt (resident : Resident homes hub ref home) : ref < hub.connections.length := by
  rw [← resident.tidy.even]
  exact (List.getElem?_eq_some_iff.1 resident.found).1

theorem present (resident : Resident homes hub ref home) :
    ∃ conn, hub.connections[ref]? = some conn :=
  ⟨_, List.getElem?_eq_getElem resident.lt⟩

theorem step (resident : Resident homes hub ref home) (event : Event) :
    Resident (homes ++ (hub.attachment? event).toList) (hub.step event).2 ref home where
  tidy := resident.tidy.step event
  found := by
    rw [List.getElem?_append_left (List.getElem?_eq_some_iff.1 resident.found).1]
    exact resident.found

theorem run (resident : Resident homes hub ref home) (events : List Event) :
    Resident (homes ++ hub.attachments events) (hub.run events).2 ref home where
  tidy := resident.tidy.run events
  found := by
    rw [List.getElem?_append_left (List.getElem?_eq_some_iff.1 resident.found).1]
    exact resident.found

/-- A connection that is tracked at the end of a run was tracked all along. -/
theorem mem_trackedBy_of_run (resident : Resident homes hub ref home)
    (tracked : ref ∈ (hub.run events).2.trackedBy t) : ref ∈ hub.trackedBy t := by
  induction events generalizing homes hub with
  | nil => exact tracked
  | cons event others ih =>
      exact mem_trackedBy_of_step resident.lt event (ih (resident.step event) tracked)

end Resident

end Hub

end LiveRelay
