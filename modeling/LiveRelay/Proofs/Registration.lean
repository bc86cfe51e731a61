/-
Module: LiveRelay.Proofs.Registration
Purpose: A registry is a relation with a fixed domain. Whatever was registered and removed, it answers
  from what is bound: which registrations it takes and refuses, what was removed, how many connections
  there are under a channel, under each and under all, and which connections of a channel are visited
  while they are open.
Main exports: Registry.Answers, TieredRegistry.AnswersLike, forEachOpen, forEachOpen_eq,
  Registry.VisitsOpen, Registry.answers_from_bindings
-/
import LiveRelay.Proofs.Topic.Bindings
import LiveRelay.Proofs.Topic.Offering

namespace LiveRelay

open Text Connections

/-! ### Answers -/

/-- What a registry answers at a time, and what its next change makes of it, given what is bound. -/
structure Registry.Answers (registry : Registry) (topic : String) (known : ChannelSet)
    (bindings : Bindings) : Prop where
  find : registry.find? = bindings
  accepts : ∀ channel ∈ known.channels, ∀ id ref, ∃ later,
    registry.register channel id ref = .ok later ∧
      registry.apply (.register channel id ref) = later ∧
      later.find? = bindings.put channel id (some ref)
  refuses : ∀ channel ∉ known.channels, ∀ id ref,
    registry.register channel id ref = .error ⟨topic, channel⟩ ∧
      registry.apply (.register channel id ref) = registry
  removes : ∀ channel id, ∃ later,
    registry.unregister channel id = ((bindings channel id).isSome, later) ∧
      registry.apply (.unregister channel id) = later ∧
      later.find? = bindings.put channel id none
  count : ∀ channel, registry.count channel = (bindings.ids channel).ncard
  counts : ∀ channel number, (channel, number) ∈ registry.counts ↔
    channel ∈ known.channels ∧ number = (bindings.ids channel).ncard
  increasing : (registry.counts.map Prod.fst).Pairwise BytesBefore
  total : registry.total = (registry.counts.map Prod.snd).sum

theorem Registry.Holds.answers {registry : Registry} {topic : String} {known : ChannelSet}
    {bindings : Bindings} (holds : registry.Holds topic known bindings) :
    registry.Answers topic known bindings where
  find := holds.find
  accepts := by
    intro channel accepted id ref
    obtain ⟨later, registered, after⟩ := holds.register accepted id ref
    refine ⟨later, registered, ?_, after.find⟩
    rw [Registry.apply, registered]
    rfl
  refuses := by
    intro channel unknown id ref
    have refused := holds.register_of_unknown unknown id ref
    refine ⟨refused, ?_⟩
    rw [Registry.apply, refused]
    rfl
  removes := by
    intro channel id
    obtain ⟨bound, after⟩ := holds.unregister channel id
    exact ⟨_, Prod.ext bound rfl, rfl, after.find⟩
  count := holds.count
  counts := by
    intro channel number
    rw [holds.counts, List.mem_map]
    constructor
    · rintro ⟨name, accepted, same⟩
      obtain ⟨rfl, rfl⟩ := Prod.mk.inj same
      exact ⟨accepted, rfl⟩
    · rintro ⟨accepted, rfl⟩
      exact ⟨channel, accepted, rfl⟩
  increasing := by
    rw [holds.counts, List.map_map]
    exact List.pairwise_map.2 known.increasing
  total := holds.total

/-! ### The registry in two tiers -/

namespace TieredRegistry

/-- The connection in the table of a channel under a number. -/
def find? (registry : TieredRegistry) (channel : Channel) (id : ConnId) : Option ConnRef :=
  (registry.channels.get? channel).bind fun members => members.get? id

/-- How many connections the table of a channel has. -/
def count (registry : TieredRegistry) (channel : Channel) : Nat :=
  (registry.channels.get? channel).elim 0 Table.size

/-- How many connections the tables of all channels have. -/
def total (registry : TieredRegistry) : Nat :=
  (registry.channels.entries.map fun entry => entry.2.size).sum

/-- A registry in tiers answers everything that it is asked as one with a single table does. -/
structure AnswersLike (nested : TieredRegistry) (flat : Registry) : Prop where
  refuses : ∀ channel id ref fault, nested.register channel id ref = .error fault ↔
    flat.register channel id ref = .error fault
  removes : ∀ channel id, (nested.unregister channel id).1 = (flat.unregister channel id).1
  find : nested.find? = flat.find?
  members : nested.membersOf = flat.membersOf
  count : nested.count = flat.count
  counts : nested.counts = flat.counts
  total : nested.total = flat.total

end TieredRegistry

namespace Tiers

variable {nested : TieredRegistry} {flat : Registry} {topic : String} {known : ChannelSet}
  {bindings : Bindings}

theorem find? (tiers : Tiers nested flat) : nested.find? = flat.find? := by
  funext channel id
  apply Option.ext
  intro ref
  rw [Registry.find?, Table.get?_eq_some_iff, TieredRegistry.find?]
  rcases tiers.found_or channel with ⟨_, members, found⟩ | ⟨refused, missing⟩
  · have kept := tiers.members channel members (Table.get?_eq_some_iff.1 found)
    rw [found, Option.bind_some, Table.get?_eq_some_iff, kept, List.mem_map]
    constructor
    · rintro ⟨⟨⟨name, number⟩, place⟩, member, same⟩
      obtain ⟨present, rfl⟩ := Registry.mem_entriesOf.1 member
      obtain ⟨rfl, rfl⟩ := Prod.mk.inj same
      exact present
    · exact fun present => ⟨_, Registry.mem_entriesOf.2 ⟨present, rfl⟩, rfl⟩
  · rw [missing]
    refine iff_of_false (Option.some_ne_none ref).symm fun present => ?_
    cases refused.symm.trans (tiers.within _ present)

theorem count (tiers : Tiers nested flat) : nested.count = flat.count := by
  funext channel
  have same := congrArg List.length (tiers.membersOf channel)
  rw [Registry.membersOf, List.length_map] at same
  refine Eq.trans ?_ same
  rw [TieredRegistry.count, TieredRegistry.membersOf]
  cases nested.channels.get? channel with
  | none => rfl
  | some members => exact (List.length_map _).symm

theorem answersLike (tiers : Tiers nested flat) (holds : flat.Holds topic known bindings) :
    nested.AnswersLike flat where
  refuses := by
    intro channel id ref fault
    rcases tiers.register channel id ref with ⟨_, _, _, one, two, _⟩ | ⟨_, _, one, two⟩
    · rw [one, two]
      exact iff_of_false nofun nofun
    · rw [one, two]
      simp only [Except.error.injEq]
  removes := fun channel id => (tiers.unregister channel id).1
  find := tiers.find?
  members := funext tiers.membersOf
  count := tiers.count
  counts := tiers.counts
  total := by
    -- The counts are the sizes of the tables, sorted.
    rw [holds.total, ← tiers.counts, TieredRegistry.counts]
    refine Eq.trans ?_ ((List.mergeSort_perm _ _).map Prod.snd).sum_eq.symm
    rw [List.map_map]
    rfl

end Tiers

/-! ### Visits -/

/-- Go through connections one after another and visit each that is open when its turn comes. A visit
may do anything to the connections. Say which were visited, how many, and what is left. -/
def forEachOpen (visit : ConnRef → Connections → Connections) :
    List ConnRef → Connections → List ConnRef × Nat × Connections
  | [], conns => ([], 0, conns)
  | ref :: others, conns =>
    if conns.isOpenAt ref then
      let (visited, number, conns) := forEachOpen visit others (visit ref conns)
      (ref :: visited, number + 1, conns)
    else forEachOpen visit others conns

/-- A visit to a connection makes no difference to which of the others are open. -/
def Apart (visit : ConnRef → Connections → Connections) : Prop :=
  ∀ conns ref other, other ≠ ref → (visit ref conns).isOpenAt other = conns.isOpenAt other

/-- To do something to the connection that is visited is such a visit. -/
theorem apart_update (f : Connection → Connection) :
    Apart fun ref conns => conns.update ref f := by
  intro conns ref other different
  rw [isOpenAt, getElem?_update_of_ne (Ne.symm different), isOpenAt]

section Visits

variable {visit : ConnRef → Connections → Connections} {ref : ConnRef} {order : List ConnRef}
  {conns : Connections}

theorem forEachOpen_cons_of_open (opened : conns.isOpenAt ref = true) :
    forEachOpen visit (ref :: order) conns =
      (ref :: (forEachOpen visit order (visit ref conns)).1,
        (forEachOpen visit order (visit ref conns)).2.1 + 1,
        (forEachOpen visit order (visit ref conns)).2.2) := by
  rw [forEachOpen, if_pos opened]

theorem forEachOpen_cons_of_shut (shut : ¬ conns.isOpenAt ref = true) :
    forEachOpen visit (ref :: order) conns = forEachOpen visit order conns := by
  rw [forEachOpen, if_neg shut]

/-- As many visits are counted as there are, and they are made one after another. -/
theorem snd_forEachOpen (visit : ConnRef → Connections → Connections) (order : List ConnRef)
    (conns : Connections) :
    (forEachOpen visit order conns).2 =
      ((forEachOpen visit order conns).1.length,
        (forEachOpen visit order conns).1.foldl (fun conns ref => visit ref conns) conns) := by
  induction order generalizing conns with
  | nil => rfl
  | cons ref others ih =>
      by_cases opened : conns.isOpenAt ref = true
      · rw [forEachOpen_cons_of_open opened, ih]
        rfl
      · rw [forEachOpen_cons_of_shut opened]
        exact ih conns

theorem sublist_forEachOpen (visit : ConnRef → Connections → Connections) (order : List ConnRef)
    (conns : Connections) : (forEachOpen visit order conns).1.Sublist order := by
  induction order generalizing conns with
  | nil => exact List.Sublist.slnil
  | cons ref others ih =>
      by_cases opened : conns.isOpenAt ref = true
      · rw [forEachOpen_cons_of_open opened]
        exact (ih _).cons_cons ref
      · rw [forEachOpen_cons_of_shut opened]
        exact (ih _).cons ref

/-- A connection is visited exactly if it is open when its turn comes. -/
theorem mem_forEachOpen {before after : List ConnRef} (distinct : (before ++ ref :: after).Nodup)
    (conns : Connections) :
    ref ∈ (forEachOpen visit (before ++ ref :: after) conns).1 ↔
      (forEachOpen visit before conns).2.2.isOpenAt ref = true := by
  induction before generalizing conns with
  | nil =>
      rw [List.nil_append] at distinct ⊢
      by_cases opened : conns.isOpenAt ref = true
      · rw [forEachOpen_cons_of_open opened]
        exact iff_of_true List.mem_cons_self opened
      · rw [forEachOpen_cons_of_shut opened]
        have passed := sublist_forEachOpen visit after conns
        exact iff_of_false (fun member => (List.nodup_cons.1 distinct).1 (passed.subset member))
          opened
  | cons first others ih =>
      obtain ⟨absent, rest⟩ := List.nodup_cons.1 distinct
      have different : ref ≠ first := by
        rintro rfl
        exact absent (List.mem_append_right _ List.mem_cons_self)
      rw [List.cons_append]
      by_cases opened : conns.isOpenAt first = true
      · rw [forEachOpen_cons_of_open opened, forEachOpen_cons_of_open opened, List.mem_cons,
          or_iff_right different]
        exact ih rest _
      · rw [forEachOpen_cons_of_shut opened, forEachOpen_cons_of_shut opened]
        exact ih rest conns

/-- Where visits keep to themselves, the connections that are open when their turn comes are those that
were open at first. -/
theorem forEachOpen_eq (apart : Apart visit) (distinct : order.Nodup) (conns : Connections) :
    (forEachOpen visit order conns).1 = order.filter conns.isOpenAt := by
  induction order generalizing conns with
  | nil => rfl
  | cons ref others ih =>
      obtain ⟨absent, rest⟩ := List.nodup_cons.1 distinct
      by_cases opened : conns.isOpenAt ref = true
      · have later : others.filter (visit ref conns).isOpenAt = others.filter conns.isOpenAt := by
          refine List.filter_congr fun other member => apart conns ref other ?_
          rintro rfl
          exact absent member
        rw [forEachOpen_cons_of_open opened, List.filter_cons_of_pos opened, ← later, ← ih rest]
      · rw [forEachOpen_cons_of_shut opened, List.filter_cons_of_neg opened, ih rest]

end Visits

namespace Registry

/-- What it is to visit the open connections of a channel, in whatever order they are gone through:
each bound connection is visited at most once, and is visited if it is open when its turn comes; the
number that is returned is that of the visits. Where visits keep to themselves, those that were open
at first are visited. -/
def VisitsOpen (registry : Registry) (bindings : Bindings) (channel : Channel) : Prop :=
  ∀ (visit : ConnRef → Connections → Connections) (order : List ConnRef) (conns : Connections),
    order.Perm (registry.membersOf channel) →
      ∃ visited, forEachOpen visit order conns =
          (visited, visited.length, visited.foldl (fun conns ref => visit ref conns) conns) ∧
        visited.Nodup ∧
        (∀ ref ∈ visited, ∃ id, bindings channel id = some ref) ∧
        (∀ before ref after, order = before ++ ref :: after →
          (ref ∈ visited ↔ (forEachOpen visit before conns).2.2.isOpenAt ref = true)) ∧
        (Apart visit →
          visited.Perm (registry.openMembers conns channel) ∧
          ∀ ref, ref ∈ visited ↔ (∃ id, bindings channel id = some ref) ∧
            ∃ conn, conns[ref]? = some conn ∧ conn.state = .open)

/-- A connection that is registered goes under its own number. -/
def Change.Own (number : ConnRef → ConnId) : Change → Prop
  | .register _ id ref => id = number ref
  | .unregister _ _ => True

instance (number : ConnRef → ConnId) : DecidablePred (Change.Own number)
  | .register _ id ref => inferInstanceAs (Decidable (id = number ref))
  | .unregister _ _ => inferInstanceAs (Decidable True)

variable {registry : Registry} {topic : String} {known : ChannelSet} {bindings : Bindings}
  {number : ConnRef → ConnId}

/-- Whatever is bound is bound under its own number. -/
theorem own_after (changes : List Change) (own : ∀ change ∈ changes, change.Own number)
    (already : ∀ channel id ref, bindings channel id = some ref → id = number ref) :
    ∀ channel id ref, bindings.after known changes channel id = some ref → id = number ref := by
  induction changes generalizing bindings with
  | nil => exact already
  | cons change others ih =>
      obtain ⟨first, rest⟩ := List.forall_mem_cons.1 own
      refine ih rest fun channel id ref bound => ?_
      cases change with
      | register name place registered =>
          rw [Bindings.apply] at bound
          split at bound
          · unfold Bindings.put at bound
            split at bound
            · next here =>
              cases bound
              exact here.2.trans first
            · exact already channel id ref bound
          · exact already channel id ref bound
      | unregister name place =>
          simp only [Bindings.apply, Bindings.put] at bound
          split at bound
          · cases bound
          · exact already channel id ref bound

namespace Holds

/-- Under one channel a connection is registered once, if only under its own number. -/
theorem nodup_membersOf (holds : registry.Holds topic known bindings)
    (own : ∀ channel id ref, bindings channel id = some ref → id = number ref)
    (channel : Channel) : (registry.membersOf channel).Nodup := by
  refine List.Nodup.map_on ?_ (registry.members.nodup_entries.filter _)
  rintro ⟨⟨one, first⟩, ref⟩ here ⟨⟨two, second⟩, other⟩ there (rfl : ref = other)
  obtain ⟨(rfl : one = channel), found⟩ := mem_entriesOf_iff.1 here
  obtain ⟨(rfl : two = one), again⟩ := mem_entriesOf_iff.1 there
  have same : first = second :=
    (own _ _ _ (holds.find ▸ found)).trans (own _ _ _ (holds.find ▸ again)).symm
  rw [same]

theorem visitsOpen (holds : registry.Holds topic known bindings)
    (own : ∀ channel id ref, bindings channel id = some ref → id = number ref)
    (channel : Channel) : registry.VisitsOpen bindings channel := by
  intro visit order conns members
  have distinct := members.nodup_iff.2 (holds.nodup_membersOf own channel)
  have bound (ref : ConnRef) : ref ∈ order ↔ ∃ id, bindings channel id = some ref := by
    rw [members.mem_iff, mem_membersOf_iff, holds.find]
  refine ⟨(forEachOpen visit order conns).1, ?_, ?_, ?_, ?_, fun apart => ⟨?_, fun ref => ?_⟩⟩
  · rw [← snd_forEachOpen]
  · exact distinct.sublist (sublist_forEachOpen visit order conns)
  · intro ref member
    exact (bound ref).1 ((sublist_forEachOpen visit order conns).subset member)
  · rintro before ref after rfl
    exact mem_forEachOpen distinct conns
  · rw [forEachOpen_eq apart distinct]
    exact members.filter _
  · rw [forEachOpen_eq apart distinct, List.mem_filter, bound, isOpenAt_iff]

end Holds

/-- A registry is a relation between accepted channels, numbers and connections. Whatever is
registered and removed, under whatever channels and numbers, it takes a registration under an accepted
channel, which binds that number of that channel anew, and refuses one under any other channel, which
leaves it as it was; it removes what is bound under a channel and a number, and nothing else. It counts
what is bound: under one channel, under each accepted channel in their order, and under all. A registry
with a table for each channel answers the same. Where connections are registered under their own
numbers, going through the connections of a channel visits each open one once. -/
theorem answers_from_bindings (topic : String) (known : ChannelSet) (changes : List Change) :
    ((Registry.new topic known).after changes).Answers topic known
        (Bindings.none.after known changes) ∧
      ((TieredRegistry.new topic known).after changes).AnswersLike
        ((Registry.new topic known).after changes) ∧
      ∀ number : ConnRef → ConnId, (∀ change ∈ changes, change.Own number) →
        ∀ channel, ((Registry.new topic known).after changes).VisitsOpen
          (Bindings.none.after known changes) channel := by
  have holds := (holds_new topic known).after changes
  have tiers := (Tiers.new topic known).after changes
  refine ⟨holds.answers, tiers.answersLike holds, fun number own channel => ?_⟩
  exact holds.visitsOpen (own_after changes own nofun) channel

/-- The number 1 goes to two connections one after the other, under one channel in place of each other.
A third connection has its own number, an unknown channel is refused, and a connection is removed under
a channel that it is not registered under. -/
def reusedNumber : List Change :=
  [.register "b" 1 0, .register "a" 1 0, .register "b" 1 1, .register "c" 1 1, .register "b" 2 2,
    .unregister "a" 2]

/-- Two open connections of the same number, and one that is still connecting. -/
def sameNumbers : Connections :=
  [(Connection.new 1 default (some "b") 1 .dropNewest).markOpen,
    (Connection.new 1 default (some "b") 1 .dropNewest).markOpen,
    Connection.new 2 default (some "b") 1 .dropNewest]

/-- The later connection of the number has taken the place of the earlier one under its own channel
only. Of the two members of that channel one is open, and a visit that terminates it is the only
one. -/
theorem answers_from_bindings_of_reusedNumber :
    let registry := (Registry.new "one" (.ofList ["b", "a"])).after reusedNumber
    registry.find? "b" 1 = some 1 ∧ registry.find? "a" 1 = some 0 ∧
      registry.register "c" 1 1 = .error ⟨"one", "c"⟩ ∧
      (registry.unregister "a" 2).1 = false ∧
      registry.counts = [("a", 1), ("b", 2)] ∧ registry.total = 3 ∧
      forEachOpen (fun ref conns => conns.update ref Connection.terminate) [2, 1] sameNumbers =
        ([1], 1, sameNumbers.update 1 Connection.terminate) := by
  obtain ⟨answers, _, visits⟩ := answers_from_bindings "one" (.ofList ["b", "a"]) reusedNumber
  have own : ∀ change ∈ reusedNumber, change.Own fun ref => if ref = 2 then 2 else 1 := by decide
  have members : [2, 1].Perm (((Registry.new "one" (.ofList ["b", "a"])).after
      reusedNumber).membersOf "b") := by decide +kernel
  have opened : ((Registry.new "one" (.ofList ["b", "a"])).after reusedNumber).openMembers
      sameNumbers "b" = [1] := by decide +kernel
  obtain ⟨visited, went, _, _, _, apart⟩ := visits _ own "b" _ [2, 1] sameNumbers members
  have unbound : (Bindings.none.after (.ofList ["b", "a"]) reusedNumber "a" 2).isSome = false := by
    decide +kernel
  have same := (apart (apart_update Connection.terminate)).1
  rw [opened, List.perm_singleton] at same
  subst same
  refine ⟨?_, ?_, ?_, ?_, by decide +kernel, by decide +kernel, went⟩
  · rw [answers.find]
    decide +kernel
  · rw [answers.find]
    decide +kernel
  · exact (answers.refuses "c" (by decide +kernel) 1 1).1
  · obtain ⟨later, removed, _⟩ := answers.removes "a" 2
    exact (congrArg Prod.fst removed).trans unbound

end Registry

end LiveRelay
