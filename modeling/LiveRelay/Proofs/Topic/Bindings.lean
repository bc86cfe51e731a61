/-
Module: LiveRelay.Proofs.Topic.Bindings
Purpose: What a registry holds, as a relation: a channel has at most one connection bound under a
  number, and only accepted channels have any. A change to the registry is a change to one place of
  the relation, and what a registry counts can be counted there.
Main exports: Registry.find?, Bindings, Bindings.put, Bindings.after, Bindings.ids,
  Registry.Holds, Registry.holds_after, Registry.Holds.count, Registry.total_eq_sum
-/
import LiveRelay.Proofs.Ingest.Groups
import LiveRelay.Proofs.Topic.Tiered
import Mathlib.Data.Set.Card

namespace LiveRelay

open Text

namespace Table

variable {κ ν : Type} [DecidableEq κ] {table : Table κ ν} {key other : κ} {value : ν}

theorem get?_insert :
    (table.insert key value).get? other = if other = key then some value else table.get? other := by
  apply Option.ext
  intro found
  rw [get?_eq_some_iff, mem_insert]
  by_cases own : other = key
  · simp [own, eq_comm]
  · simp [own, get?_eq_some_iff]

theorem get?_erase :
    (table.erase key).get? other = if other = key then none else table.get? other := by
  apply Option.ext
  intro found
  rw [get?_eq_some_iff, mem_erase]
  by_cases own : other = key
  · simp [own]
  · simp [own, get?_eq_some_iff]

theorem contains_eq_isSome_get? : table.contains key = (table.get? key).isSome := by
  cases found : table.get? key with
  | none => exact get?_eq_none_iff.1 found
  | some value => exact contains_iff.2 ⟨value, get?_eq_some_iff.1 found⟩

end Table

/-- The connection registered under a channel and a number. -/
def Registry.find? (registry : Registry) (channel : Channel) (id : ConnId) : Option ConnRef :=
  registry.members.get? (channel, id)

/-! ### The relation -/

/-- Which connection each channel has bound under each number. -/
def Bindings := Channel → ConnId → Option ConnRef

namespace Bindings

/-- Nothing is bound. -/
def none : Bindings := fun _ _ => .none

/-- Bind a number of a channel, or unbind it. Everything else stays bound as it is. -/
def put (bindings : Bindings) (channel : Channel) (id : ConnId) (bound : Option ConnRef) :
    Bindings :=
  fun name number => if name = channel ∧ number = id then bound else bindings name number

/-- What a change binds or unbinds. Nothing can be bound under a channel that is not accepted. -/
def apply (known : ChannelSet) (bindings : Bindings) : Registry.Change → Bindings
  | .register channel id ref =>
    if channel ∈ known.channels then bindings.put channel id (some ref) else bindings
  | .unregister channel id => bindings.put channel id .none

/-- What is bound after changes one after another. -/
def after (known : ChannelSet) (bindings : Bindings) (changes : List Registry.Change) : Bindings :=
  changes.foldl (apply known) bindings

/-- The numbers that a channel has bound. -/
def ids (bindings : Bindings) (channel : Channel) : Set ConnId :=
  {id | (bindings channel id).isSome}

end Bindings

namespace Registry

variable {topic : String} {known : ChannelSet} {registry : Registry} {bindings : Bindings}
  {channel : Channel} {id : ConnId} {ref : ConnRef}

/-- A registry of a topic that accepts the known channels, and holds what is bound. -/
structure Holds (registry : Registry) (topic : String) (known : ChannelSet)
    (bindings : Bindings) : Prop where
  find : registry.find? = bindings
  within : ∀ channel id ref, bindings channel id = some ref → channel ∈ known.channels
  topic : registry.topic = topic
  known : registry.known = known

theorem mem_entriesOf_iff {entry : (Channel × ConnId) × ConnRef} :
    entry ∈ registry.entriesOf channel ↔
      entry.1.1 = channel ∧ registry.find? channel entry.1.2 = some entry.2 := by
  obtain ⟨⟨name, number⟩, place⟩ := entry
  rw [mem_entriesOf, find?, Table.get?_eq_some_iff, and_comm]
  refine and_congr_right ?_
  rintro rfl
  exact Iff.rfl

/-- What is registered under a channel is what some number finds there. -/
theorem mem_membersOf_iff :
    ref ∈ registry.membersOf channel ↔ ∃ id, registry.find? channel id = some ref := by
  rw [mem_membersOf]
  exact exists_congr fun id => Table.get?_eq_some_iff.symm

/-- As many connections are counted under a channel as there are numbers that find one. -/
theorem count_eq_ncard (registry : Registry) (channel : Channel) :
    registry.count channel = {id | (registry.find? channel id).isSome}.ncard := by
  let numbers := (registry.entriesOf channel).map fun entry => entry.1.2
  have distinct : numbers.Nodup := by
    refine List.Nodup.map_on ?_ (registry.members.nodup_entries.filter _)
    rintro ⟨⟨one, id⟩, ref⟩ first ⟨⟨two, number⟩, other⟩ second (rfl : id = number)
    obtain ⟨(rfl : one = channel), here⟩ := mem_entriesOf_iff.1 first
    obtain ⟨(rfl : two = one), there⟩ := mem_entriesOf_iff.1 second
    cases here.symm.trans there
    rfl
  have found : {id | (registry.find? channel id).isSome} = ↑numbers.toFinset := by
    apply Set.ext
    intro id
    rw [List.coe_toFinset]
    refine Option.isSome_iff_exists.trans (Iff.trans ?_ List.mem_map.symm)
    constructor
    · rintro ⟨ref, found⟩
      exact ⟨((channel, id), ref), mem_entriesOf_iff.2 ⟨rfl, found⟩, rfl⟩
    · rintro ⟨entry, member, rfl⟩
      exact ⟨entry.2, (mem_entriesOf_iff.1 member).2⟩
  rw [found, Set.ncard_coe_finset, List.toFinset_card_of_nodup distinct, List.length_map]
  rfl

/-- Where only accepted channels have members, the counts of all of them make up the total. -/
theorem total_eq_sum (within : ∀ entry ∈ registry.members.entries,
    entry.1.1 ∈ registry.known.channels) :
    registry.total = (registry.counts.map Prod.snd).sum := by
  have distinct : registry.known.channels.Nodup := by
    refine registry.known.increasing.imp ?_
    rintro channel _ before rfl
    exact BytesBefore.irrefl channel before
  let under (entry : (Channel × ConnId) × ConnRef) : Channel := entry.1.1
  have every := (perm_flatMap_filter under distinct within).length_eq
  rw [List.length_flatMap] at every
  rw [total, Table.size, ← every, counts, List.map_map]
  rfl

/-! ### One change -/

namespace Holds

theorem isKnown (holds : registry.Holds topic known bindings) :
    registry.isKnown channel = true ↔ channel ∈ known.channels := by
  rw [Registry.isKnown, holds.known]
  exact ChannelSet.contains_iff

/-- Under an accepted channel a connection is bound, in place of another one. -/
theorem register (holds : registry.Holds topic known bindings)
    (accepted : channel ∈ known.channels) (id : ConnId) (ref : ConnRef) :
    ∃ later, registry.register channel id ref = .ok later ∧
      later.Holds topic known (bindings.put channel id (some ref)) := by
  have registered : registry.register channel id ref =
      .ok { registry with members := registry.members.insert (channel, id) ref } :=
    if_pos (holds.isKnown.2 accepted)
  refine ⟨_, registered, ?_, ?_, holds.topic, holds.known⟩
  · rw [← holds.find]
    funext name number
    simp only [find?, Table.get?_insert, Bindings.put, Prod.mk.injEq]
  · intro name number place bound
    unfold Bindings.put at bound
    split at bound
    · next here => exact here.1 ▸ accepted
    · exact holds.within name number place bound

/-- Under any other channel nothing can be bound. -/
theorem register_of_unknown (holds : registry.Holds topic known bindings)
    (unknown : channel ∉ known.channels) (id : ConnId) (ref : ConnRef) :
    registry.register channel id ref = .error ⟨topic, channel⟩ := by
  rw [Registry.register, if_neg (mt holds.isKnown.1 unknown), holds.topic]

/-- Removing unbinds, and says whether anything was bound. -/
theorem unregister (holds : registry.Holds topic known bindings) (channel : Channel)
    (id : ConnId) :
    (registry.unregister channel id).1 = (bindings channel id).isSome ∧
      (registry.unregister channel id).2.Holds topic known (bindings.put channel id .none) := by
  refine ⟨?_, ?_, ?_, holds.topic, holds.known⟩
  · rw [← holds.find]
    exact Table.contains_eq_isSome_get?
  · rw [← holds.find]
    funext name number
    simp only [Registry.unregister, find?, Table.get?_erase, Bindings.put, Prod.mk.injEq]
  · intro name number place bound
    unfold Bindings.put at bound
    split at bound
    · cases bound
    · exact holds.within name number place bound

theorem apply (holds : registry.Holds topic known bindings) (change : Change) :
    (registry.apply change).Holds topic known (bindings.apply known change) := by
  cases change with
  | register channel id ref =>
      rw [Registry.apply, Bindings.apply]
      split
      · next accepted =>
        obtain ⟨later, registered, after⟩ := holds.register accepted id ref
        rw [registered]
        exact after
      · next unknown =>
        rw [holds.register_of_unknown unknown]
        exact holds
  | unregister channel id => exact (holds.unregister channel id).2

theorem after (holds : registry.Holds topic known bindings) (changes : List Change) :
    (registry.after changes).Holds topic known (bindings.after known changes) := by
  induction changes generalizing registry bindings with
  | nil => exact holds
  | cons change others ih => exact ih (holds.apply change)

theorem count (holds : registry.Holds topic known bindings) (channel : Channel) :
    registry.count channel = (bindings.ids channel).ncard := by
  rw [count_eq_ncard, holds.find]
  rfl

/-- Every accepted channel is counted, in the order of the channels, and no other. -/
theorem counts (holds : registry.Holds topic known bindings) :
    registry.counts = known.channels.map fun channel => (channel, (bindings.ids channel).ncard) := by
  rw [Registry.counts, holds.known]
  exact List.map_congr_left fun channel _ => Prod.ext rfl (holds.count channel)

theorem total (holds : registry.Holds topic known bindings) :
    registry.total = (registry.counts.map Prod.snd).sum := by
  apply total_eq_sum
  rintro ⟨⟨channel, id⟩, ref⟩ member
  rw [holds.known]
  exact holds.within channel id ref (holds.find ▸ Table.get?_eq_some_iff.2 member)

end Holds

theorem holds_new (topic : String) (known : ChannelSet) :
    (Registry.new topic known).Holds topic known .none :=
  ⟨rfl, nofun, rfl, rfl⟩

end Registry

end LiveRelay
