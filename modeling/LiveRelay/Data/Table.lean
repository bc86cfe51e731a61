/-
Module: LiveRelay.Data.Table
Purpose: Finite tables with one entry per key, in the order in which the entries were made.
Main exports: Table, Table.insert, Table.erase, Table.get?, Table.mem_insert, Table.mem_erase
-/

namespace LiveRelay

/-- Entries under keys, each key once. -/
structure Table (κ ν : Type) where
  entries : List (κ × ν)
  distinct : (entries.map Prod.fst).Nodup

namespace Table

variable {κ ν : Type} [DecidableEq κ]

/-- The table without entries. -/
def empty : Table κ ν := ⟨[], .nil⟩

instance : Inhabited (Table κ ν) := ⟨empty⟩

/-- The entries of other keys. -/
def without (key : κ) (entries : List (κ × ν)) : List (κ × ν) :=
  entries.filter fun entry => entry.1 ≠ key

theorem mem_without {key : κ} {entries : List (κ × ν)} {entry : κ × ν} :
    entry ∈ without key entries ↔ entry ∈ entries ∧ entry.1 ≠ key := by
  simp [without]

theorem nodup_without {key : κ} {entries : List (κ × ν)}
    (distinct : (entries.map Prod.fst).Nodup) : ((without key entries).map Prod.fst).Nodup :=
  distinct.sublist ((List.filter_sublist).map Prod.fst)

/-- Enter a value under a key, in place of any older value. -/
def insert (table : Table κ ν) (key : κ) (value : ν) : Table κ ν where
  entries := without key table.entries ++ [(key, value)]
  distinct := by
    rw [List.map_append]
    refine List.nodup_append.2 ⟨nodup_without table.distinct, by simp, ?_⟩
    intro name member other last
    obtain ⟨entry, present, rfl⟩ := List.mem_map.1 member
    obtain rfl : other = key := by simpa using last
    exact (mem_without.1 present).2

/-- Remove the entry of a key, if there is one. -/
def erase (table : Table κ ν) (key : κ) : Table κ ν :=
  ⟨without key table.entries, nodup_without table.distinct⟩

/-- The value under a key. -/
def get? (table : Table κ ν) (key : κ) : Option ν := table.entries.lookup key

/-- Whether a key has an entry. -/
def contains (table : Table κ ν) (key : κ) : Bool := table.entries.any fun entry => entry.1 = key

/-- The number of entries. -/
def size (table : Table κ ν) : Nat := table.entries.length

/-- The keys in the order of their entries. -/
def keys (table : Table κ ν) : List κ := table.entries.map Prod.fst

/-- The values in the order of their entries. -/
def values (table : Table κ ν) : List ν := table.entries.map Prod.snd

/-- After an entry is made, the entries are the new one and those of other keys. -/
theorem mem_insert {table : Table κ ν} {key : κ} {value : ν} {entry : κ × ν} :
    entry ∈ (table.insert key value).entries ↔
      entry = (key, value) ∨ entry ∈ table.entries ∧ entry.1 ≠ key := by
  simp [insert, mem_without, or_comm]

/-- After an entry is removed, the entries are those of other keys. -/
theorem mem_erase {table : Table κ ν} {key : κ} {entry : κ × ν} :
    entry ∈ (table.erase key).entries ↔ entry ∈ table.entries ∧ entry.1 ≠ key :=
  mem_without

/-- A key has an entry exactly when some value stands under it. -/
theorem contains_iff {table : Table κ ν} {key : κ} :
    table.contains key = true ↔ ∃ value, (key, value) ∈ table.entries := by
  simp only [contains, List.any_eq_true, decide_eq_true_eq]
  constructor
  · rintro ⟨⟨name, value⟩, member, rfl⟩
    exact ⟨value, member⟩
  · rintro ⟨value, member⟩
    exact ⟨(key, value), member, rfl⟩

end Table

end LiveRelay
