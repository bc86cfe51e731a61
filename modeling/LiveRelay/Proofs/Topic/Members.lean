/-
Module: LiveRelay.Proofs.Topic.Members
Purpose: Which connections the walks of a topic visit, and that they visit each of them once.
Main exports: Topic.Indexes.mem_tracked, Topic.Indexes.nodup_tracked,
  Topic.Indexes.mem_openMembers, Topic.Indexes.nodup_openMembers
-/
import LiveRelay.Proofs.Topic.Index

namespace LiveRelay

theorem Table.mem_values {κ ν : Type} {table : Table κ ν} {value : ν} :
    value ∈ table.values ↔ ∃ key, (key, value) ∈ table.entries := by
  simp [Table.values]

theorem Table.nodup_entries {κ ν : Type} (table : Table κ ν) : table.entries.Nodup :=
  table.distinct.of_map

theorem Registry.mem_entriesOf {registry : Registry} {channel : Channel}
    {entry : (Channel × ConnId) × ConnRef} :
    entry ∈ registry.entriesOf channel ↔
      entry ∈ registry.members.entries ∧ entry.1.1 = channel := by
  simp [Registry.entriesOf]

theorem Registry.mem_membersOf {registry : Registry} {channel : Channel} {ref : ConnRef} :
    ref ∈ registry.membersOf channel ↔ ∃ id, ((channel, id), ref) ∈ registry.members.entries := by
  simp [Registry.membersOf, Registry.mem_entriesOf]

/-- The place of a bond among the bonds of connections is that of its connection. -/
theorem Housed.connection {homes : List Attachment} {conns : Connections} {t : Nat}
    {ref : ConnRef} {bond : Bond} (housed : Housed homes (conns.map Connection.bond) t ref bond) :
    ∃ conn, conns[ref]? = some conn ∧ conn.bond = bond := by
  have present := housed.1
  rw [List.getElem?_map, Option.map_eq_some_iff] at present
  exact present

namespace Topic.Indexes

variable {homes : List Attachment} {bonds : List Bond} {t : Nat} {topic : Topic} {ref : ConnRef}

/-! ### The tracked connections -/

theorem mem_tracked (indexes : Indexes homes bonds t topic) :
    ref ∈ topic.tracker.values ↔ ∃ bond, Housed homes bonds t ref bond ∧ bond.isGone = false := by
  rw [Table.mem_values]
  exact indexes.listed_tracker.exists_entry_iff

theorem nodup_tracked (indexes : Indexes homes bonds t topic) : topic.tracker.values.Nodup := by
  refine List.Nodup.map_on ?_ topic.tracker.nodup_entries
  rintro ⟨one, ref⟩ first ⟨two, other⟩ second (rfl : ref = other)
  -- A tracked connection is tracked by its own number.
  obtain ⟨_, here, rfl, _⟩ := (indexes.tracked one ref).1 first
  obtain ⟨_, there, rfl, _⟩ := (indexes.tracked two ref).1 second
  rw [here.bond_unique there]

/-! ### The open subscribers of a channel -/

variable {conns : Connections} {channel : Channel}

theorem mem_openMembers (indexes : Indexes homes (conns.map Connection.bond) t topic) :
    ref ∈ topic.registry.openMembers conns channel ↔
      ∃ conn, conns[ref]? = some conn ∧
        Housed homes (conns.map Connection.bond) t ref conn.bond ∧
        conn.channel = some channel ∧ topic.isKnown channel = true ∧ conn.state = .open := by
  rw [Registry.openMembers, List.mem_filter, Registry.mem_membersOf,
    (indexes.listed_registry channel).exists_entry_iff]
  constructor
  · rintro ⟨⟨bond, housed, _, asked, accepted⟩, opened⟩
    obtain ⟨conn, present, rfl⟩ := housed.connection
    rw [present] at opened
    exact ⟨conn, present, housed, asked, accepted, by simpa [Connection.isOpen] using opened⟩
  · rintro ⟨conn, present, housed, asked, accepted, opened⟩
    have attached : conn.bond.isGone = false := by simp [Connection.bond, opened]
    refine ⟨⟨conn.bond, housed, attached, asked, accepted⟩, ?_⟩
    rw [present]
    simp [Connection.isOpen, opened]

theorem nodup_openMembers (indexes : Indexes homes bonds t topic) :
    (topic.registry.openMembers conns channel).Nodup := by
  refine List.Nodup.filter _ (List.Nodup.map_on ?_ (topic.registry.members.nodup_entries.filter _))
  rintro ⟨⟨one, number⟩, ref⟩ first ⟨⟨two, other⟩, place⟩ second (rfl : ref = place)
  obtain ⟨entered, (rfl : one = channel)⟩ := Registry.mem_entriesOf.1 first
  obtain ⟨again, (rfl : two = one)⟩ := Registry.mem_entriesOf.1 second
  obtain ⟨_, here, rfl, _⟩ := (indexes.registered _ number ref).1 entered
  obtain ⟨_, there, rfl, _⟩ := (indexes.registered _ other ref).1 again
  rw [here.bond_unique there]

end Topic.Indexes

end LiveRelay
