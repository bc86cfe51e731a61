/-
Module: LiveRelay.Proofs.Topic.Index
Purpose: A topic holds its connections in two tables, the tracker and the registry. Both are settled
  by what lasts of the connections: a connection is tracked until its closing is finished, and
  registered as long if its channel is known.
Main exports: Listed, Listed.change, Attachment, Housed, Topic.Indexes, Topic.join, Topic.release,
  Topic.Indexes.join, Topic.Indexes.release
-/
import LiveRelay.Proofs.Connection.Walk
import Mathlib.Data.List.Nodup

namespace LiveRelay

open Net

/-! ### Indexes -/

/-- An index lists those at some places that are wanted in it, each under its number. -/
def Listed {α : Type} (holds : ConnRef → α → Prop) (number : α → ConnId) (wanted : α → Prop)
    (entry : ConnId → ConnRef → Prop) : Prop :=
  ∀ id ref, entry id ref ↔ ∃ x, holds ref x ∧ number x = id ∧ wanted x

/-- At a place there is one thing, and nothing at another place has its number. -/
structure Sole {α : Type} (holds : ConnRef → α → Prop) (number : α → ConnId) (ref : ConnRef)
    (one : α) : Prop where
  here : holds ref one
  same : ∀ x, holds ref x → x = one
  only : ∀ place x, holds place x → number x = number one → place = ref

section

variable {α : Type} {holds later : ConnRef → α → Prop} {number : α → ConnId} {wanted : α → Prop}
  {entry after : ConnId → ConnRef → Prop} {ref place : ConnRef} {one next : α}

theorem Sole.number_iff (sole : Sole holds number ref one) {x : α} (there : holds place x) :
    number x = number one ↔ place = ref := by
  constructor
  · exact sole.only place x there
  · rintro rfl
    rw [sole.same x there]

namespace Listed

/-- Under the number of a thing at most its own place is listed. -/
theorem entry_iff (listed : Listed holds number wanted entry) (sole : Sole holds number ref one) :
    entry (number one) place ↔ place = ref ∧ wanted one := by
  rw [listed]
  constructor
  · rintro ⟨x, there, same, isWanted⟩
    obtain rfl := sole.only place x there same
    obtain rfl := sole.same x there
    exact ⟨rfl, isWanted⟩
  · rintro ⟨rfl, isWanted⟩
    exact ⟨one, sole.here, rfl, isWanted⟩

/-- A place is listed exactly if what is there is wanted. -/
theorem exists_entry_iff (listed : Listed holds number wanted entry) :
    (∃ id, entry id ref) ↔ ∃ x, holds ref x ∧ wanted x := by
  constructor
  · rintro ⟨id, entered⟩
    obtain ⟨x, there, _, isWanted⟩ := (listed id ref).1 entered
    exact ⟨x, there, isWanted⟩
  · rintro ⟨x, there, isWanted⟩
    exact ⟨number x, (listed _ ref).2 ⟨x, there, rfl, isWanted⟩⟩

/-- An index that stays as it is fits a thing that stays wanted as before. -/
theorem kept (listed : Listed holds number wanted entry) (sole : Sole holds number ref one)
    {still : Prop} (same : still ↔ wanted one) (id : ConnId) (place : ConnRef) :
    entry id place ↔
      id ≠ number one ∧ entry id place ∨ id = number one ∧ place = ref ∧ still := by
  by_cases own : id = number one
  · subst own
    rw [listed.entry_iff sole, same]
    simp
  · simp [own]

/-- What is at one place changes, and the entry of its number with it. -/
theorem change (listed : Listed holds number wanted entry)
    (unique : ∀ place x, holds place x → (number x = number next ↔ place = ref))
    (moved : ∀ place x, later place x ↔ place ≠ ref ∧ holds place x ∨ place = ref ∧ x = next)
    (changes : ∀ id place, after id place ↔
      id ≠ number next ∧ entry id place ∨ id = number next ∧ place = ref ∧ wanted next) :
    Listed later number wanted after := by
  intro id place
  rw [changes]
  constructor
  · rintro (⟨different, old⟩ | ⟨rfl, rfl, isWanted⟩)
    · obtain ⟨x, there, rfl, isWanted⟩ := (listed id place).1 old
      have elsewhere : place ≠ ref := fun same => different ((unique place x there).2 same)
      exact ⟨x, (moved place x).2 (.inl ⟨elsewhere, there⟩), rfl, isWanted⟩
    · exact ⟨next, (moved place next).2 (.inr ⟨rfl, rfl⟩), rfl, isWanted⟩
  · rintro ⟨x, there, rfl, isWanted⟩
    rcases (moved place x).1 there with ⟨elsewhere, before⟩ | ⟨rfl, rfl⟩
    · have different : number x ≠ number next := fun same =>
        elsewhere ((unique place x before).1 same)
      exact .inl ⟨different, (listed _ place).2 ⟨x, before, rfl, isWanted⟩⟩
    · exact .inr ⟨rfl, rfl, isWanted⟩

/-- Something new that is not wanted yet has no entry. -/
theorem extend (listed : Listed holds number wanted entry)
    (moved : ∀ place x, later place x ↔ holds place x ∨ place = ref ∧ x = next)
    (unwanted : ¬ wanted next) : Listed later number wanted entry := by
  intro id place
  rw [listed]
  constructor
  · rintro ⟨x, there, rest⟩
    exact ⟨x, (moved place x).2 (.inl there), rest⟩
  · rintro ⟨x, there, same, isWanted⟩
    rcases (moved place x).1 there with before | ⟨_, rfl⟩
    · exact ⟨x, before, same, isWanted⟩
    · exact absurd isWanted unwanted

end Listed

end

/-! ### The connections of a topic -/

/-- How a connection came about: the topic it was attached to, its peer, and the channel that it
asked for. -/
structure Attachment where
  topic : Nat
  peer : SocketAddress
  channel : Option Channel
deriving Repr, DecidableEq

/-- Connection `ref` was attached to topic `t`, and `bond` is what lasts of it. -/
def Housed (homes : List Attachment) (bonds : List Bond) (t : Nat) (ref : ConnRef)
    (bond : Bond) : Prop :=
  bonds[ref]? = some bond ∧ ∃ home, homes[ref]? = some home ∧ home.topic = t

namespace Housed

variable {homes : List Attachment} {bonds : List Bond} {t : Nat} {ref other : ConnRef}
  {bond added : Bond} {home : Attachment}

/-- A new connection joins those that were there, at their end. -/
theorem append_iff (even : homes.length = bonds.length) :
    Housed (homes ++ [home]) (bonds ++ [added]) t ref bond ↔
      Housed homes bonds t ref bond ∨ ref = bonds.length ∧ bond = added ∧ home.topic = t := by
  unfold Housed
  rcases Nat.lt_trichotomy ref bonds.length with before | rfl | after
  · rw [List.getElem?_append_left before, List.getElem?_append_left (even ▸ before)]
    constructor
    · exact .inl
    · rintro (earlier | ⟨rfl, _⟩)
      · exact earlier
      · exact absurd before (Nat.lt_irrefl _)
  · have absent : bonds[bonds.length]? = none := List.getElem?_eq_none (Nat.le_refl _)
    rw [← even, List.getElem?_concat_length, even, List.getElem?_concat_length, absent]
    simp [eq_comm]
  · have absent : bonds[ref]? = none := List.getElem?_eq_none (Nat.le_of_lt after)
    have beyond : (bonds ++ [added])[ref]? = none :=
      List.getElem?_eq_none (by simpa using Nat.succ_le_of_lt after)
    rw [absent, beyond]
    simp [Nat.ne_of_gt after]

theorem ne_length (housed : Housed homes bonds t ref bond) : ref ≠ bonds.length :=
  Nat.ne_of_lt (List.getElem?_eq_some_iff.1 housed.1).1

/-- The new connection is one of this topic. -/
theorem append_iff_of_topic (even : homes.length = bonds.length) (own : home.topic = t) :
    Housed (homes ++ [home]) (bonds ++ [added]) t ref bond ↔
      ref ≠ bonds.length ∧ Housed homes bonds t ref bond ∨ ref = bonds.length ∧ bond = added := by
  rw [append_iff even]
  constructor
  · rintro (housed | ⟨last, same, _⟩)
    · exact .inl ⟨housed.ne_length, housed⟩
    · exact .inr ⟨last, same⟩
  · rintro (⟨_, housed⟩ | ⟨last, same⟩)
    · exact .inl housed
    · exact .inr ⟨last, same, own⟩

/-- The end of a connection changes what lasts of it, and of no other. -/
theorem modify_iff :
    Housed homes (bonds.modify ref Bond.gone) t other bond ↔
      (ref ≠ other ∧ Housed homes bonds t other bond) ∨
        (ref = other ∧ ∃ earlier, Housed homes bonds t other earlier ∧ bond = earlier.gone) := by
  unfold Housed
  by_cases same : ref = other
  · subst same
    rw [List.getElem?_modify_eq]
    cases bonds[ref]? with
    | none => simp
    | some earlier => simp [eq_comm, and_comm]
  · rw [List.getElem?_modify_ne _ bonds same]
    simp [same]

/-- A connection of the topic ends. -/
theorem modify_iff_of_housed (housed : Housed homes bonds t ref bond) {later : Bond} :
    Housed homes (bonds.modify ref Bond.gone) t other later ↔
      other ≠ ref ∧ Housed homes bonds t other later ∨ other = ref ∧ later = bond.gone := by
  rw [modify_iff, Ne, Ne, eq_comm (a := ref)]
  by_cases same : other = ref
  · subst same
    constructor
    · rintro (⟨different, _⟩ | ⟨_, earlier, there, rfl⟩)
      · exact absurd rfl different
      · rw [Option.some.inj (there.1.symm.trans housed.1)]
        exact .inr ⟨rfl, rfl⟩
    · rintro (⟨different, _⟩ | ⟨_, rfl⟩)
      · exact absurd rfl different
      · exact .inr ⟨rfl, bond, housed, rfl⟩
  · simp [same]

theorem bond_unique {one two : Bond} (first : Housed homes bonds t ref one)
    (second : Housed homes bonds t ref two) : one = two :=
  Option.some.inj (first.1.symm.trans second.1)

end Housed

namespace Topic

/-- The topic without what it counted. -/
def uncounted (topic : Topic) : Topic := { topic with stats := .zero }

/-- The two tables of topic `t` hold what they should of the connections attached to it, and its
numbers are all different. -/
structure Indexes (homes : List Attachment) (bonds : List Bond) (t : Nat) (topic : Topic) :
    Prop where
  tracked : ∀ id ref, (id, ref) ∈ topic.tracker.entries ↔
    ∃ bond, Housed homes bonds t ref bond ∧ bond.id = id ∧ bond.isGone = false
  registered : ∀ channel id ref, ((channel, id), ref) ∈ topic.registry.members.entries ↔
    ∃ bond, Housed homes bonds t ref bond ∧ bond.id = id ∧ bond.isGone = false ∧
      bond.channel = some channel ∧ topic.isKnown channel = true
  next : topic.nextId = UInt64.ofNat (homes.countP (·.topic = t) + 1)
  numbered : ∀ ref bond, Housed homes bonds t ref bond →
    bond.id.toNat ≤ homes.countP (·.topic = t)
  unique : ∀ ref other one two, Housed homes bonds t ref one → Housed homes bonds t other two →
    one.id = two.id → ref = other
  made : ∀ ref bond home, Housed homes bonds t ref bond → homes[ref]? = some home →
    bond.peer = home.peer ∧ bond.channel = home.channel ∧
      bond.capacity = max topic.queueCapacity 1 ∧ bond.overflow = topic.overflow

/-! ### What the steps of attaching and detaching do to the tables -/

variable {topic : Topic} {conns : Connections} {peer : SocketAddress} {channel : Option Channel}

theorem enroll_of_known {id : ConnId} {ref : ConnRef} {name : Channel}
    (known : topic.isKnown name = true) :
    topic.enroll id (some name) ref =
      { topic with registry :=
          { topic.registry with members := topic.registry.members.insert (name, id) ref } } := by
  have accepted : topic.registry.isKnown name = true := known
  simp only [enroll, Registry.register, if_pos accepted]

theorem enroll_of_unknown {id : ConnId} {ref : ConnRef} {name : Channel}
    (unknown : ¬ topic.isKnown name = true) : topic.enroll id (some name) ref = topic := by
  have refused : ¬ topic.registry.isKnown name = true := unknown
  simp only [enroll, Registry.register, if_neg refused]

/-- Enrolling changes nothing but the members of the registry. -/
theorem enroll_eq (id : ConnId) (channel : Option Channel) (ref : ConnRef) :
    ∃ members, topic.enroll id channel ref =
      { topic with registry := { topic.registry with members := members } } := by
  cases channel with
  | none => exact ⟨topic.registry.members, rfl⟩
  | some name =>
      by_cases known : topic.isKnown name = true
      · exact ⟨_, enroll_of_known known⟩
      · exact ⟨topic.registry.members, enroll_of_unknown known⟩

theorem tracker_enroll (id : ConnId) (ref : ConnRef) :
    (topic.enroll id channel ref).tracker = topic.tracker := by
  obtain ⟨members, enrolled⟩ := topic.enroll_eq id channel ref
  rw [enrolled]

/-- Enrolling enters a connection under its channel if that is known, and nothing else. -/
theorem mem_members_enroll {id other : ConnId} {ref place : ConnRef} {name : Channel} :
    ((name, other), place) ∈ (topic.enroll id channel ref).registry.members.entries ↔
      (channel = some name ∧ topic.isKnown name = true ∧ other = id ∧ place = ref) ∨
        (((name, other), place) ∈ topic.registry.members.entries ∧
          ¬ (channel = some name ∧ topic.isKnown name = true ∧ other = id)) := by
  cases channel with
  | none => simp [enroll]
  | some asked =>
      by_cases known : topic.isKnown asked = true
      · rw [enroll_of_known known, Table.mem_insert]
        by_cases same : asked = name
        · subst same
          simp [known]
        · simp [same, Ne.symm same]
      · rw [enroll_of_unknown known]
        by_cases same : asked = name
        · subst same
          simp [known]
        · simp [same]

/-- Withdrawing removes a connection from its own channel, and nothing else. -/
theorem mem_members_withdraw {id other : ConnId} {ref : ConnRef} {name : Channel} :
    ((name, other), ref) ∈ (topic.withdraw id channel).registry.members.entries ↔
      ((name, other), ref) ∈ topic.registry.members.entries ∧
        ¬ (channel = some name ∧ other = id) := by
  cases channel with
  | none => simp [withdraw]
  | some asked =>
      simp only [withdraw, Registry.unregister, Table.mem_erase, ne_eq, Prod.mk.injEq,
        Option.some.injEq]
      rw [eq_comm (a := name)]

theorem tracker_withdraw (id : ConnId) : (topic.withdraw id channel).tracker = topic.tracker := by
  cases channel <;> rfl

/-- Untracking removes what is tracked under a number, and nothing else. -/
theorem mem_tracker_untrack {id other : ConnId} {ref : ConnRef} :
    (other, ref) ∈ (topic.untrack id).tracker.entries ↔
      (other, ref) ∈ topic.tracker.entries ∧ other ≠ id := by
  unfold untrack
  split
  · rw [Table.mem_erase]
  · next absent =>
    constructor
    · intro member
      refine ⟨member, ?_⟩
      rintro rfl
      exact absent (Table.contains_iff.2 ⟨ref, member⟩)
    · exact And.left

theorem registry_untrack (id : ConnId) : (topic.untrack id).registry = topic.registry := by
  unfold untrack
  split <;> rfl

/-! ### What never changes about a topic -/

/-- The topic as it was before anything happened. -/
def cleared (topic : Topic) : Topic :=
  { topic with
    registry := { topic.registry with members := .empty }
    tracker := .empty
    stats := .zero
    nextId := 1 }

theorem cleared_enroll (id : ConnId) (ref : ConnRef) :
    (topic.enroll id channel ref).cleared = topic.cleared := by
  obtain ⟨members, enrolled⟩ := topic.enroll_eq id channel ref
  rw [enrolled]
  rfl

theorem nextId_enroll (id : ConnId) (ref : ConnRef) :
    (topic.enroll id channel ref).nextId = topic.nextId := by
  obtain ⟨members, enrolled⟩ := topic.enroll_eq id channel ref
  rw [enrolled]

theorem stats_enroll (id : ConnId) (ref : ConnRef) :
    (topic.enroll id channel ref).stats = topic.stats := by
  obtain ⟨members, enrolled⟩ := topic.enroll_eq id channel ref
  rw [enrolled]

theorem cleared_withdraw (id : ConnId) : (topic.withdraw id channel).cleared = topic.cleared := by
  cases channel <;> rfl

theorem nextId_withdraw (id : ConnId) : (topic.withdraw id channel).nextId = topic.nextId := by
  cases channel <;> rfl

theorem stats_withdraw (id : ConnId) : (topic.withdraw id channel).stats = topic.stats := by
  cases channel <;> rfl

theorem cleared_untrack (id : ConnId) : (topic.untrack id).cleared = topic.cleared := by
  unfold untrack
  split <;> rfl

theorem nextId_untrack (id : ConnId) : (topic.untrack id).nextId = topic.nextId := by
  unfold untrack
  split <;> rfl

theorem isKnown_of_cleared {one two : Topic} (same : one.cleared = two.cleared) (name : Channel) :
    one.isKnown name = two.isKnown name := by
  have known : one.cleared.registry.known = two.cleared.registry.known := by rw [same]
  exact congrArg (·.contains name) known

theorem options_of_cleared {one two : Topic} (same : one.cleared = two.cleared) :
    one.queueCapacity = two.queueCapacity ∧ one.overflow = two.overflow := by
  have capacity : one.cleared.queueCapacity = two.cleared.queueCapacity := by rw [same]
  have overflow : one.cleared.overflow = two.cleared.overflow := by rw [same]
  exact ⟨capacity, overflow⟩

/-! ### Attaching and detaching -/

/-- The topic after a connection joined it at some place. -/
def join (topic : Topic) (channel : Option Channel) (ref : ConnRef) : Topic :=
  ((topic.takeId.track topic.nextId ref).countOpened).enroll topic.nextId channel ref

theorem cleared_join (ref : ConnRef) : (topic.join channel ref).cleared = topic.cleared := by
  rw [join, cleared_enroll]
  rfl

theorem nextId_join (ref : ConnRef) : (topic.join channel ref).nextId = topic.nextId + 1 :=
  nextId_enroll _ _

theorem tracker_join (ref : ConnRef) :
    (topic.join channel ref).tracker = topic.tracker.insert topic.nextId ref :=
  tracker_enroll _ _

theorem mem_members_join {id : ConnId} {ref place : ConnRef} {name : Channel} :
    ((name, id), place) ∈ (topic.join channel ref).registry.members.entries ↔
      (channel = some name ∧ topic.isKnown name = true ∧ id = topic.nextId ∧ place = ref) ∨
        (((name, id), place) ∈ topic.registry.members.entries ∧
          ¬ (channel = some name ∧ topic.isKnown name = true ∧ id = topic.nextId)) :=
  mem_members_enroll

theorem attach_eq :
    topic.attach conns peer channel =
      (conns.length, topic.join channel conns.length,
        conns ++ [(topic.newConnection peer channel).markOpen]) := by
  rw [attach, Connections.update_append_length]
  rfl

/-- The topic after it let a connection go. -/
def release (topic : Topic) (id : ConnId) (channel : Option Channel) : Topic :=
  (topic.withdraw id channel).untrack id

theorem cleared_release (id : ConnId) : (topic.release id channel).cleared = topic.cleared := by
  rw [release, cleared_untrack, cleared_withdraw]

theorem nextId_release (id : ConnId) : (topic.release id channel).nextId = topic.nextId := by
  rw [release, nextId_untrack, nextId_withdraw]

theorem mem_tracker_release {id other : ConnId} {ref : ConnRef} :
    (other, ref) ∈ (topic.release id channel).tracker.entries ↔
      (other, ref) ∈ topic.tracker.entries ∧ other ≠ id := by
  rw [release, mem_tracker_untrack, tracker_withdraw]

theorem mem_members_release {id other : ConnId} {ref : ConnRef} {name : Channel} :
    ((name, other), ref) ∈ (topic.release id channel).registry.members.entries ↔
      ((name, other), ref) ∈ topic.registry.members.entries ∧
        ¬ (channel = some name ∧ other = id) := by
  rw [release, registry_untrack, mem_members_withdraw]

/-- Detaching a connection closes it for good and lets the topic let it go. -/
theorem detach_eq {ref : ConnRef} {conn : Connection} (present : conns[ref]? = some conn) :
    topic.detach conns ref =
      (topic.release conn.id conn.channel,
        conns.update ref fun conn => conn.beginClose.finishClose) := by
  simp only [detach, present, Connections.update, List.modify_modify_eq]
  rfl

namespace Indexes

variable {homes : List Attachment} {bonds : List Bond} {t : Nat} {ref : ConnRef} {bond : Bond}

theorem listed_tracker (indexes : Indexes homes bonds t topic) :
    Listed (Housed homes bonds t) Bond.id (·.isGone = false) fun id ref =>
      (id, ref) ∈ topic.tracker.entries := indexes.tracked

theorem listed_registry (indexes : Indexes homes bonds t topic) (name : Channel) :
    Listed (Housed homes bonds t) Bond.id
      (fun bond => bond.isGone = false ∧ bond.channel = some name ∧ topic.isKnown name = true)
      fun id ref => ((name, id), ref) ∈ topic.registry.members.entries := indexes.registered name

theorem sole (indexes : Indexes homes bonds t topic) (housed : Housed homes bonds t ref bond) :
    Sole (Housed homes bonds t) Bond.id ref bond where
  here := housed
  same := fun _ there => there.bond_unique housed
  only := fun place _ there same => indexes.unique place ref _ _ there housed same

/-- The next number of a topic, while its numbers have not run out. -/
theorem toNat_nextId (indexes : Indexes homes bonds t topic)
    (few : homes.length + 1 < UInt64.size) :
    topic.nextId.toNat = homes.countP (·.topic = t) + 1 := by
  have bound : homes.countP (·.topic = t) ≤ homes.length := List.countP_le_length
  rw [indexes.next]
  exact UInt64.toNat_ofNat_of_lt' (Nat.lt_of_le_of_lt (Nat.succ_le_succ bound) few)

/-- The next number of a topic is the number of none of its connections. -/
theorem id_ne_nextId (indexes : Indexes homes bonds t topic) (few : homes.length + 1 < UInt64.size)
    (housed : Housed homes bonds t ref bond) : bond.id ≠ topic.nextId := by
  intro same
  have bound := indexes.numbered ref bond housed
  rw [same, indexes.toNat_nextId few] at bound
  omega

/-- A topic without connections. -/
theorem new (config : TopicConfig) (relay : RelayConfig) :
    Indexes [] [] t (Topic.new config relay) where
  tracked := by
    intro id ref
    simp [Topic.new, Table.empty, Housed]
  registered := by
    intro name id ref
    simp [Topic.new, Registry.new, Table.empty, Housed]
  next := rfl
  numbered := by
    intro ref bond housed
    cases housed.1
  unique := by
    intro ref other one two first
    cases first.1
  made := by
    intro ref bond home housed
    cases housed.1

/-- What a topic counts has no part in its tables. -/
theorem of_uncounted {earlier : Topic} (same : topic.uncounted = earlier.uncounted)
    (indexes : Indexes homes bonds t earlier) : Indexes homes bonds t topic := by
  have config := congrArg Topic.config same
  cases topic
  cases earlier
  simp only [uncounted, Topic.mk.injEq] at same
  obtain ⟨rfl, rfl, rfl, _, rfl, rfl, rfl, rfl, rfl⟩ := same
  exact ⟨indexes.tracked, indexes.registered, indexes.next, indexes.numbered, indexes.unique,
    indexes.made⟩

/-- A connection is attached: the topic it is attached to enters it. -/
theorem join (indexes : Indexes homes bonds t topic) (even : homes.length = bonds.length)
    (few : homes.length + 1 < UInt64.size) (peer : SocketAddress) (channel : Option Channel) :
    Indexes (homes ++ [⟨t, peer, channel⟩])
      (bonds ++ [(topic.newConnection peer channel).bond]) t
      (topic.join channel bonds.length) := by
  have cleared : (topic.join channel bonds.length).cleared = topic.cleared := cleared_join _
  have known := isKnown_of_cleared cleared
  have options := options_of_cleared cleared
  have number : (topic.newConnection peer channel).bond.id = topic.nextId := rfl
  -- The new connection has a place and a number that no other one has.
  have joined (place : ConnRef) (bond : Bond) :
      Housed (homes ++ [⟨t, peer, channel⟩])
          (bonds ++ [(topic.newConnection peer channel).bond]) t place bond ↔
        place ≠ bonds.length ∧ Housed homes bonds t place bond ∨
          place = bonds.length ∧ bond = (topic.newConnection peer channel).bond :=
    Housed.append_iff_of_topic even rfl
  have fresh (place : ConnRef) (bond : Bond) (housed : Housed homes bonds t place bond) :
      bond.id = topic.nextId ↔ place = bonds.length :=
    iff_of_false (indexes.id_ne_nextId few housed) housed.ne_length
  constructor
  case tracked =>
    refine indexes.listed_tracker.change fresh joined fun id place => ?_
    rw [tracker_join, Table.mem_insert, number]
    simp [Topic.newConnection, Connection.new, Connection.bond, and_comm, or_comm]
  case registered =>
    intro name
    simp only [known]
    refine (indexes.listed_registry name).change fresh joined fun id place => ?_
    rw [mem_members_join, number]
    by_cases own : id = topic.nextId
    · subst own
      have absent : ((name, topic.nextId), place) ∉ topic.registry.members.entries := by
        intro member
        obtain ⟨bond, housed, same, _⟩ := (indexes.registered name _ place).1 member
        exact indexes.id_ne_nextId few housed same
      simp [absent, Topic.newConnection, Connection.new, Connection.bond, and_comm, and_left_comm]
    · simp [own]
  case next =>
    rw [nextId_join, indexes.next, List.countP_append, ← UInt64.ofNat_one, ← UInt64.ofNat_add]
    simp
  case numbered =>
    intro ref bond housed
    rw [List.countP_append]
    rcases (Housed.append_iff even).1 housed with housed | ⟨_, rfl, _⟩
    · exact Nat.le_trans (indexes.numbered ref bond housed) (Nat.le_add_right _ _)
    · rw [number, indexes.toNat_nextId few]
      simp
  case unique =>
    intro ref other one two first second same
    rcases (Housed.append_iff even).1 first with first | ⟨rfl, rfl, _⟩ <;>
      rcases (Housed.append_iff even).1 second with second | ⟨rfl, rfl, _⟩
    · exact indexes.unique ref other one two first second same
    · exact absurd same (indexes.id_ne_nextId few first)
    · exact absurd same.symm (indexes.id_ne_nextId few second)
    · rfl
  case made =>
    intro ref bond home housed found
    rw [options.1, options.2]
    rcases (Housed.append_iff even).1 housed with housed | ⟨rfl, rfl, _⟩
    · have within : ref < homes.length := even ▸ (List.getElem?_eq_some_iff.1 housed.1).1
      rw [List.getElem?_append_left within] at found
      exact indexes.made ref bond home housed found
    · rw [← even, List.getElem?_concat_length] at found
      cases found
      exact ⟨rfl, rfl, rfl, rfl⟩

/-- A connection is attached to another topic. -/
theorem append_elsewhere (indexes : Indexes homes bonds t topic)
    (even : homes.length = bonds.length) {home : Attachment} {added : Bond}
    (elsewhere : home.topic ≠ t) :
    Indexes (homes ++ [home]) (bonds ++ [added]) t topic := by
  have housed_iff (ref : ConnRef) (bond : Bond) :
      Housed (homes ++ [home]) (bonds ++ [added]) t ref bond ↔ Housed homes bonds t ref bond := by
    rw [Housed.append_iff even]
    simp [elsewhere]
  have counted : (homes ++ [home]).countP (·.topic = t) = homes.countP (·.topic = t) := by
    simp [List.countP_append, elsewhere]
  constructor
  case made =>
    intro ref bond other housed found
    rw [housed_iff] at housed
    have within : ref < homes.length := even ▸ (List.getElem?_eq_some_iff.1 housed.1).1
    rw [List.getElem?_append_left within] at found
    exact indexes.made ref bond other housed found
  all_goals simp only [housed_iff, counted]
  case tracked => exact indexes.tracked
  case registered => exact indexes.registered
  case next => exact indexes.next
  case numbered => exact indexes.numbered
  case unique => exact indexes.unique

/-- A connection is detached: its own topic lets it go. -/
theorem release (indexes : Indexes homes bonds t topic) (housed : Housed homes bonds t ref bond) :
    Indexes homes (bonds.modify ref Bond.gone) t (topic.release bond.id bond.channel) := by
  have cleared : (topic.release bond.id bond.channel).cleared = topic.cleared := cleared_release _
  have known := isKnown_of_cleared cleared
  have options := options_of_cleared cleared
  have gone (other : ConnRef) (later : Bond) :
      Housed homes (bonds.modify ref Bond.gone) t other later ↔
        other ≠ ref ∧ Housed homes bonds t other later ∨ other = ref ∧ later = bond.gone :=
    housed.modify_iff_of_housed
  have sole := indexes.sole housed
  have unique (other : ConnRef) (kept : Bond) (there : Housed homes bonds t other kept) :
      kept.id = bond.gone.id ↔ other = ref := sole.number_iff there
  have earlier {other : ConnRef} {later : Bond}
      (there : Housed homes (bonds.modify ref Bond.gone) t other later) :
      ∃ kept, Housed homes bonds t other kept ∧ later.id = kept.id ∧ later.peer = kept.peer ∧
        later.channel = kept.channel ∧ later.capacity = kept.capacity ∧
          later.overflow = kept.overflow := by
    rcases (gone other later).1 there with ⟨_, here⟩ | ⟨rfl, rfl⟩
    · exact ⟨later, here, rfl, rfl, rfl, rfl, rfl⟩
    · exact ⟨bond, housed, rfl, rfl, rfl, rfl, rfl⟩
  constructor
  case tracked =>
    refine indexes.listed_tracker.change unique gone fun id other => ?_
    rw [mem_tracker_release]
    simp [Bond.gone, and_comm]
  case registered =>
    intro name
    simp only [known]
    refine (indexes.listed_registry name).change unique gone fun id other => ?_
    rw [mem_members_release]
    by_cases own : id = bond.id
    · subst own
      have asked (member : ((name, bond.id), other) ∈ topic.registry.members.entries) :=
        (((indexes.listed_registry name).entry_iff sole).1 member).2.2.1
      constructor
      · rintro ⟨member, different⟩
        exact absurd ⟨asked member, rfl⟩ different
      · rintro (⟨different, _⟩ | ⟨_, _, attached, _⟩)
        · exact absurd rfl different
        · cases attached
    · simp [own, Bond.gone]
  case next =>
    rw [nextId_release, indexes.next]
  case numbered =>
    intro other later there
    obtain ⟨kept, there, number, _⟩ := earlier there
    rw [number]
    exact indexes.numbered other kept there
  case unique =>
    intro one two first second here there same
    obtain ⟨_, here, left, _⟩ := earlier here
    obtain ⟨_, there, right, _⟩ := earlier there
    exact indexes.unique one two _ _ here there (left ▸ right ▸ same)
  case made =>
    intro other later home there found
    obtain ⟨kept, there, _, peer, channel, capacity, overflow⟩ := earlier there
    rw [peer, channel, capacity, overflow, options.1, options.2]
    exact indexes.made other kept home there found

/-- A connection of another topic is detached. -/
theorem modify_elsewhere (indexes : Indexes homes bonds t topic) {home : Attachment}
    (found : homes[ref]? = some home) (elsewhere : home.topic ≠ t) :
    Indexes homes (bonds.modify ref Bond.gone) t topic := by
  have housed_iff (other : ConnRef) (bond : Bond) :
      Housed homes (bonds.modify ref Bond.gone) t other bond ↔ Housed homes bonds t other bond := by
    rw [Housed.modify_iff]
    constructor
    · rintro (⟨_, there⟩ | ⟨rfl, _, ⟨_, other, present, here⟩, _⟩)
      · exact there
      · cases found.symm.trans present
        exact absurd here elsewhere
    · intro there
      refine .inl ⟨?_, there⟩
      rintro rfl
      obtain ⟨_, other, present, here⟩ := there
      cases found.symm.trans present
      exact elsewhere here
  constructor
  case next => exact indexes.next
  all_goals simp only [housed_iff]
  case tracked => exact indexes.tracked
  case registered => exact indexes.registered
  case numbered => exact indexes.numbered
  case unique => exact indexes.unique
  case made => exact indexes.made

end Indexes

end Topic

end LiveRelay
