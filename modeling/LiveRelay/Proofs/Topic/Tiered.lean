/-
Module: LiveRelay.Proofs.Topic.Tiered
Purpose: The registry of a topic as a table of tables: beside the set of accepted channels, a table of
  members for each of them. It answers everything as the registry with one table does, and its
  channels stay those that are accepted, whatever is registered and removed.
Main exports: TieredRegistry, Registry.Change, Registry.after, TieredRegistry.after, Tiers, Tiers.after,
  Tiers.register, Tiers.membersOf, Tiers.counts
-/
import LiveRelay.Proofs.Topic.Members

namespace LiveRelay

open Text

namespace Table

variable {κ ν : Type} [DecidableEq κ] {table : Table κ ν} {key : κ} {value : ν}

/-- What is found under a key is its entry. -/
theorem get?_eq_some_iff : table.get? key = some value ↔ (key, value) ∈ table.entries := by
  rw [get?, List.lookup_eq_some_iff]
  constructor
  · rintro ⟨before, after, split, _⟩
    rw [split]
    exact List.mem_append_right _ List.mem_cons_self
  · intro member
    obtain ⟨before, after, split⟩ := List.append_of_mem member
    refine ⟨before, after, split, fun entry earlier => ?_⟩
    have distinct := table.distinct
    rw [split, List.map_append, List.map_cons] at distinct
    have apart := List.disjoint_of_nodup_append distinct (List.mem_map_of_mem earlier)
    exact bne_iff_ne.2 fun same => apart (same ▸ List.mem_cons_self)

/-- A key without an entry finds nothing. -/
theorem get?_eq_none_iff : table.get? key = none ↔ table.contains key = false := by
  rw [← Bool.not_eq_true, contains_iff, Option.eq_none_iff_forall_ne_some, not_exists]
  exact forall_congr' fun value => not_congr get?_eq_some_iff

end Table

/-! ### The registry in two tiers -/

/-- A registry that keeps a table of members for each of its channels, beside the set of the
channels. -/
structure TieredRegistry where
  topic : String
  known : ChannelSet
  channels : Table Channel (Table ConnId ConnRef)

namespace TieredRegistry

/-- Every accepted channel has an empty table of members. -/
def new (topic : String) (known : ChannelSet) : TieredRegistry :=
  ⟨topic, known, known.channels.foldl (fun table channel => table.insert channel .empty) .empty⟩

/-- Whether a channel is accepted, by the set. -/
def isKnown (registry : TieredRegistry) (channel : Channel) : Bool :=
  registry.known.contains channel

/-- Register a connection in the table of a channel, if the channel has one. -/
def register (registry : TieredRegistry) (channel : Channel) (id : ConnId) (ref : ConnRef) :
    Except UnknownChannel TieredRegistry :=
  match registry.channels.get? channel with
  | none => .error ⟨registry.topic, channel⟩
  | some members =>
    .ok { registry with channels := registry.channels.insert channel (members.insert id ref) }

/-- Remove a connection from the table of a channel, and say whether it was there. -/
def unregister (registry : TieredRegistry) (channel : Channel) (id : ConnId) :
    Bool × TieredRegistry :=
  match registry.channels.get? channel with
  | none => (false, registry)
  | some members =>
    (members.contains id,
      { registry with channels := registry.channels.insert channel (members.erase id) })

/-- The connections in the table of a channel. -/
def membersOf (registry : TieredRegistry) (channel : Channel) : List ConnRef :=
  (registry.channels.get? channel).elim [] Table.values

/-- How many connections each channel with a table has, sorted by the bytes of the channels. -/
def counts (registry : TieredRegistry) : List (Channel × Nat) :=
  (registry.channels.entries.map fun entry => (entry.1, entry.2.size)).mergeSort
    fun one other => ¬ BytesBefore other.1 one.1

end TieredRegistry

/-- What may happen to a registry. -/
inductive Registry.Change where
  | register (channel : Channel) (id : ConnId) (ref : ConnRef)
  | unregister (channel : Channel) (id : ConnId)
deriving Repr, DecidableEq

/-- The registry after a change; what is refused changes nothing. -/
def Registry.apply (registry : Registry) : Change → Registry
  | .register channel id ref => (registry.register channel id ref).toOption.getD registry
  | .unregister channel id => (registry.unregister channel id).2

/-- The registry after changes one after another. -/
def Registry.after (registry : Registry) (changes : List Change) : Registry :=
  changes.foldl apply registry

def TieredRegistry.apply (registry : TieredRegistry) : Registry.Change → TieredRegistry
  | .register channel id ref => (registry.register channel id ref).toOption.getD registry
  | .unregister channel id => (registry.unregister channel id).2

def TieredRegistry.after (registry : TieredRegistry) (changes : List Registry.Change) :
    TieredRegistry :=
  changes.foldl apply registry

/-- The accepted channels stay as they are. -/
theorem Registry.known_after {registry : Registry} (changes : List Change) :
    (registry.after changes).known = registry.known := by
  induction changes generalizing registry with
  | nil => rfl
  | cons change others ih =>
      refine ih.trans ?_
      cases change with
      | unregister => rfl
      | register channel id ref =>
          rw [apply, register]
          split <;> rfl

/-! ### Both forms agree -/

/-- An entry of the registry as the table of its channel holds it. -/
def Registry.stripped (entry : (Channel × ConnId) × ConnRef) : ConnId × ConnRef :=
  (entry.1.2, entry.2)

/-- A registry in tiers holds what a registry with one table holds: its channels are the accepted
ones, each with the members that are registered under it, and nothing is registered elsewhere. -/
structure Tiers (tiered : TieredRegistry) (flat : Registry) : Prop where
  topic : tiered.topic = flat.topic
  known : tiered.known = flat.known
  keys : ∀ channel, tiered.channels.contains channel = flat.isKnown channel
  members : ∀ channel members, (channel, members) ∈ tiered.channels.entries →
    members.entries = (flat.entriesOf channel).map Registry.stripped
  within : ∀ entry ∈ flat.members.entries, flat.isKnown entry.1.1 = true

section Entries

variable {channel other : Channel} {id : ConnId} {ref : ConnRef}
  {entries : List ((Channel × ConnId) × ConnRef)}

/-- The entries of another channel stay as they are. -/
theorem filter_without_of_ne (different : other ≠ channel) :
    (Table.without (channel, id) entries).filter (fun entry => entry.1.1 = other) =
      entries.filter fun entry => entry.1.1 = other := by
  rw [Table.without, List.filter_filter]
  refine List.filter_congr fun entry _ => ?_
  by_cases own : entry.1.1 = other
  · have apart : entry.1 ≠ (channel, id) := fun same => different (own ▸ congrArg Prod.fst same)
    simp [own, apart]
  · simp [own]

/-- Of the entries of a channel, those of a number go. -/
theorem stripped_without :
    ((Table.without (channel, id) entries).filter fun entry => entry.1.1 = channel).map
        Registry.stripped =
      Table.without id ((entries.filter fun entry => entry.1.1 = channel).map
        Registry.stripped) := by
  rw [Table.without, Table.without, List.filter_filter, List.filter_map, List.filter_filter]
  congr 1
  refine List.filter_congr fun entry _ => ?_
  obtain ⟨⟨name, number⟩, place⟩ := entry
  by_cases own : name = channel <;> by_cases same : number = id <;>
    simp [own, same, Registry.stripped]

end Entries

namespace Tiers

variable {tiered : TieredRegistry} {flat : Registry} {channel : Channel} {id : ConnId}
  {ref : ConnRef} {known : ChannelSet} {members : Table ConnId ConnRef}

/-- The accepted channels get their tables one after another. -/
theorem mem_foldl_insert {channels : List Channel} {table : Table Channel (Table ConnId ConnRef)}
    {entry : Channel × Table ConnId ConnRef} :
    entry ∈ (channels.foldl (fun table channel => table.insert channel .empty) table).entries ↔
      entry.1 ∈ channels ∧ entry.2 = .empty ∨ entry.1 ∉ channels ∧ entry ∈ table.entries := by
  obtain ⟨channel, members⟩ := entry
  induction channels generalizing table with
  | nil => simp
  | cons first others ih =>
      rw [List.foldl_cons, ih, Table.mem_insert, List.mem_cons]
      by_cases own : channel = first
      · subst own
        by_cases later : channel ∈ others <;> simp [later]
      · simp [own]

/-- Without members the two forms hold the same. -/
theorem new (topic : String) (known : ChannelSet) :
    Tiers (TieredRegistry.new topic known) (Registry.new topic known) where
  topic := rfl
  known := rfl
  keys := by
    intro channel
    rw [Bool.eq_iff_iff, Table.contains_iff]
    refine Iff.trans ?_ ChannelSet.contains_iff.symm
    constructor
    · rintro ⟨members, member⟩
      rcases mem_foldl_insert.1 member with ⟨accepted, _⟩ | ⟨_, none⟩
      · exact accepted
      · cases none
    · exact fun accepted => ⟨.empty, mem_foldl_insert.2 (.inl ⟨accepted, rfl⟩)⟩
  members := by
    intro channel members member
    rcases mem_foldl_insert.1 member with ⟨_, empty⟩ | ⟨_, none⟩
    · rw [show members = .empty from empty]
      rfl
    · cases none
  within := fun _ none => absurd none List.not_mem_nil

/-- A channel has a table exactly if it is accepted. -/
theorem found_or (tiers : Tiers tiered flat) (channel : Channel) :
    (flat.isKnown channel = true ∧ ∃ members, tiered.channels.get? channel = some members) ∨
      (flat.isKnown channel = false ∧ tiered.channels.get? channel = none) := by
  cases found : tiered.channels.get? channel with
  | some members =>
      refine .inl ⟨?_, members, rfl⟩
      rw [← tiers.keys, Table.contains_iff]
      exact ⟨members, Table.get?_eq_some_iff.1 found⟩
  | none => exact .inr ⟨tiers.keys channel ▸ Table.get?_eq_none_iff.1 found, rfl⟩

/-- The table of a channel changes as the entries of the channel do. -/
theorem insert (tiers : Tiers tiered flat) (accepted : flat.isKnown channel = true)
    {table : Table (Channel × ConnId) ConnRef}
    (own : members.entries =
      (table.entries.filter fun entry => entry.1.1 = channel).map Registry.stripped)
    (others : ∀ other, other ≠ channel →
      table.entries.filter (fun entry => entry.1.1 = other) = flat.entriesOf other)
    (within : ∀ entry ∈ table.entries, entry ∈ flat.members.entries ∨ entry.1.1 = channel) :
    Tiers { tiered with channels := tiered.channels.insert channel members }
      { flat with members := table } where
  topic := tiers.topic
  known := tiers.known
  keys := by
    intro other
    refine Eq.trans ?_ (tiers.keys other)
    rw [Bool.eq_iff_iff, Table.contains_iff, Table.contains_iff]
    by_cases same : other = channel
    · subst same
      refine ⟨fun _ => Table.contains_iff.1 ((tiers.keys other).trans accepted), fun _ => ?_⟩
      exact ⟨members, Table.mem_insert.2 (.inl rfl)⟩
    · refine exists_congr fun found => Table.mem_insert.trans ?_
      simp [same]
  members := by
    intro other found member
    rcases Table.mem_insert.1 member with same | ⟨old, different⟩
    · obtain ⟨rfl, rfl⟩ := Prod.mk.inj same
      exact own
    · exact (tiers.members other found old).trans
        (congrArg (List.map Registry.stripped) (others other different)).symm
  within := by
    intro entry member
    rcases within entry member with old | rfl
    · exact tiers.within entry old
    · exact accepted

/-- Registering is refused by both forms, with the same error, or leaves them holding the same. -/
theorem register (tiers : Tiers tiered flat) (channel : Channel) (id : ConnId) (ref : ConnRef) :
    (flat.isKnown channel = true ∧ ∃ later further, tiered.register channel id ref = .ok later ∧
      flat.register channel id ref = .ok further ∧ Tiers later further) ∨
    (flat.isKnown channel = false ∧ ∃ fault, tiered.register channel id ref = .error fault ∧
      flat.register channel id ref = .error fault) := by
  rcases tiers.found_or channel with ⟨accepted, members, found⟩ | ⟨refused, missing⟩
  · refine .inl ⟨accepted, _, _, by rw [TieredRegistry.register, found],
      by rw [Registry.register, if_pos accepted], tiers.insert accepted ?_ ?_ ?_⟩
    · have kept := tiers.members channel members (Table.get?_eq_some_iff.1 found)
      simp only [Table.insert, List.filter_append, List.map_append, stripped_without]
      rw [kept]
      simp [Registry.entriesOf, Registry.stripped]
    · intro other different
      simp [Table.insert, List.filter_append, filter_without_of_ne different,
        Ne.symm different, Registry.entriesOf]
    · intro entry member
      rcases Table.mem_insert.1 member with rfl | ⟨old, _⟩
      · exact .inr rfl
      · exact .inl old
  · refine .inr ⟨refused, ⟨flat.topic, channel⟩, ?_, ?_⟩
    · rw [TieredRegistry.register, missing, tiers.topic]
    · rw [Registry.register, if_neg (by simp [refused])]

/-- Both forms say alike whether there was something to remove, and hold the same afterwards. -/
theorem unregister (tiers : Tiers tiered flat) (channel : Channel) (id : ConnId) :
    (tiered.unregister channel id).1 = (flat.unregister channel id).1 ∧
      Tiers (tiered.unregister channel id).2 (flat.unregister channel id).2 := by
  rcases tiers.found_or channel with ⟨accepted, members, found⟩ | ⟨refused, missing⟩
  · have kept := tiers.members channel members (Table.get?_eq_some_iff.1 found)
    rw [TieredRegistry.unregister, found]
    constructor
    · rw [Bool.eq_iff_iff, Table.contains_iff, Registry.unregister, Table.contains_iff]
      refine exists_congr fun ref => ?_
      rw [kept, List.mem_map]
      constructor
      · rintro ⟨⟨⟨name, number⟩, place⟩, member, same⟩
        obtain ⟨present, rfl⟩ := Registry.mem_entriesOf.1 member
        obtain ⟨rfl, rfl⟩ := Prod.mk.inj same
        exact present
      · exact fun present => ⟨_, Registry.mem_entriesOf.2 ⟨present, rfl⟩, rfl⟩
    · refine tiers.insert accepted ?_ ?_ ?_
      · simp only [Table.erase, stripped_without]
        rw [kept]
        rfl
      · intro other different
        exact filter_without_of_ne different
      · exact fun entry member => .inl (Table.mem_erase.1 member).1
  · have absent : ∀ ref, ((channel, id), ref) ∉ flat.members.entries := by
      intro ref present
      cases refused.symm.trans (tiers.within _ present)
    have nothing : flat.members.contains (channel, id) = false := by
      rw [← Bool.not_eq_true, Table.contains_iff, not_exists]
      exact absent
    have same : (flat.unregister channel id).2 = flat := by
      have untouched : Table.without (channel, id) flat.members.entries = flat.members.entries := by
        refine List.filter_eq_self.2 fun entry member => decide_eq_true fun same => ?_
        exact absent entry.2 (same ▸ member)
      have erased : flat.members.erase (channel, id) = flat.members := by
        simp only [Table.erase, untouched]
      rw [Registry.unregister, erased]
    rw [TieredRegistry.unregister, missing, same]
    exact ⟨nothing.symm, tiers⟩

theorem apply (tiers : Tiers tiered flat) (change : Registry.Change) :
    Tiers (tiered.apply change) (flat.apply change) := by
  cases change with
  | register channel id ref =>
      rw [TieredRegistry.apply, Registry.apply]
      rcases tiers.register channel id ref with ⟨_, _, _, one, two, after⟩ | ⟨_, _, one, two⟩
      · rw [one, two]
        exact after
      · rw [one, two]
        exact tiers
  | unregister channel id => exact (tiers.unregister channel id).2

/-- Whatever happens to both forms, they go on holding the same. -/
theorem after (tiers : Tiers tiered flat) (changes : List Registry.Change) :
    Tiers (tiered.after changes) (flat.after changes) := by
  induction changes generalizing tiered flat with
  | nil => exact tiers
  | cons change others ih => exact ih (tiers.apply change)

/-! ### What the two forms answer -/

theorem membersOf (tiers : Tiers tiered flat) (channel : Channel) :
    tiered.membersOf channel = flat.membersOf channel := by
  rw [TieredRegistry.membersOf]
  rcases tiers.found_or channel with ⟨_, members, found⟩ | ⟨refused, missing⟩
  · rw [found, Option.elim_some, Table.values,
      tiers.members channel members (Table.get?_eq_some_iff.1 found), List.map_map]
    rfl
  · rw [missing, Option.elim_none, eq_comm, List.eq_nil_iff_forall_not_mem]
    intro ref member
    obtain ⟨id, present⟩ := Registry.mem_membersOf.1 member
    cases refused.symm.trans (tiers.within _ present)

/-- Both forms count the same connections of the same channels, in the same order. -/
theorem counts (tiers : Tiers tiered flat) : tiered.counts = flat.counts := by
  let counted (channel : Channel) : Channel × Nat := (channel, flat.count channel)
  have sizes : tiered.channels.entries.map (fun entry => (entry.1, entry.2.size)) =
      tiered.channels.keys.map counted := by
    rw [Table.keys, List.map_map]
    refine List.map_congr_left fun ⟨channel, members⟩ member => ?_
    have size := congrArg List.length (tiers.members channel members member)
    rw [List.length_map] at size
    exact Prod.ext rfl size
  have distinct : flat.known.channels.Nodup := by
    refine flat.known.increasing.imp ?_
    rintro channel _ before rfl
    exact BytesBefore.irrefl channel before
  have same : tiered.channels.keys.Perm flat.known.channels := by
    refine (List.perm_ext_iff_of_nodup tiered.channels.distinct distinct).2 fun channel => ?_
    rw [← ChannelSet.contains_iff]
    refine Iff.trans ?_ (Bool.eq_iff_iff.1 (tiers.keys channel))
    rw [Table.contains_iff, List.mem_map]
    exact ⟨fun ⟨entry, member, own⟩ => ⟨entry.2, own ▸ member⟩, fun ⟨members, member⟩ =>
      ⟨_, member, rfl⟩⟩
  have sorted : flat.counts.Pairwise fun one other => ¬ BytesBefore other.1 one.1 := by
    refine List.pairwise_map.2 (flat.known.increasing.imp ?_)
    exact fun before behind => BytesBefore.irrefl _ (before.trans behind)
  rw [TieredRegistry.counts, sizes]
  refine List.Perm.eq_of_pairwise ?_ (List.pairwise_mergeSort ?_ ?_ _)
    (sorted.imp fun before => decide_eq_true before)
    ((List.mergeSort_perm _ _).trans (same.map counted))
  · -- Of two different channels one is before the other, and each is counted once.
    intro one other first second notBehind notBefore
    obtain ⟨channel, _, rfl⟩ := List.mem_map.1 ((List.mergeSort_perm _ _).mem_iff.1 first)
    obtain ⟨name, _, rfl⟩ := List.mem_map.1 second
    by_contra different
    have apart : channel ≠ name := fun same => different (congrArg counted same)
    exact of_decide_eq_true notBehind (.of_not (of_decide_eq_true notBefore) apart)
  · intro one two three first second
    refine decide_eq_true fun behind => of_decide_eq_true first ?_
    by_cases own : three.1 = two.1
    · exact own ▸ behind
    · exact (BytesBefore.of_not (of_decide_eq_true second) own).trans behind
  · intro one two
    rw [Bool.or_eq_true, decide_eq_true_eq, decide_eq_true_eq, or_iff_not_imp_left, not_not]
    exact fun behind before => BytesBefore.irrefl _ (before.trans behind)

end Tiers

end LiveRelay
