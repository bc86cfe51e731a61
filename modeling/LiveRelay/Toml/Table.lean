/-
Module: LiveRelay.Toml.Table
Purpose: Tables of a TOML document while it is read: what may be added to which table, and what
  defines a table or key a second time.
Main exports: Node, Entries, Entries.insertDotted, Entries.openTable, Entries.openItem,
  Entries.within, Entries.settings
-/
import LiveRelay.Settings

namespace LiveRelay.Toml

/-- How a table came to be: by a header of its own, as the parent of a table that has a header, or
as the parent of a dotted key. -/
inductive Origin where
  | headed
  | implied
  | dotted
deriving Repr, DecidableEq

/-- What stands under a key: a finished value, a table, or an array of tables, of which the last
is the one that can still grow. -/
inductive Node where
  | value (setting : Setting)
  | table (origin : Origin) (entries : List (String × Node))
  | tables (earlier : List (List (String × Node))) (last : List (String × Node))
deriving Repr

/-- The keys of a table with what stands under them, each key once. -/
abbrev Entries := List (String × Node)

namespace Entries

/-- Replace what stands under a key, or add the key. -/
def update (key : String) (change : Option Node → Option Node) : Entries → Option Entries
  | [] => (change none).map fun node => [(key, node)]
  | (name, node) :: others =>
    if name = key then (change (some node)).map fun node => (name, node) :: others
    else (update key change others).map ((name, node) :: ·)

/-- Add a value under a new key. -/
def insertNew (entries : Entries) (key : String) (setting : Setting) : Option Entries :=
  entries.update key fun
    | none => some (.value setting)
    | some _ => none

/-- Add a value under a dotted key. The tables that its parts name are made where they are
missing. A table with a header cannot be extended this way, and the last table must come from
dotted keys alone. -/
def insertDotted (path : List String) (key : String) (setting : Setting) :
    Entries → Option Entries :=
  match path with
  | [] => fun entries => entries.insertNew key setting
  | step :: rest => fun entries =>
    entries.update step fun
      | none => (insertDotted rest key setting []).map (.table .dotted)
      | some (.value _) => none
      | some (.table origin below) =>
        if origin = .headed ∨ rest = [] ∧ origin ≠ .dotted then none
        else (insertDotted rest key setting below).map (.table origin)
      | some (.tables earlier last) =>
        if rest = [] then none
        else (insertDotted rest key setting last).map (.tables earlier)

/-- Change the table that a path leads to. Missing tables on the way are made, and of an array of
tables the last one is entered. -/
def within (path : List String) (change : Entries → Option Entries) : Entries → Option Entries :=
  match path with
  | [] => change
  | step :: rest => fun entries =>
    entries.update step fun
      | none => (within rest change []).map (.table .implied)
      | some (.value _) => none
      | some (.table origin below) => (within rest change below).map (.table origin)
      | some (.tables earlier last) => (within rest change last).map (.tables earlier)

/-- Define a table by its header. Only a table that was implied so far may exist already. -/
def openTable (parents : List String) (key : String) (entries : Entries) : Option Entries :=
  entries.within parents fun inner =>
    inner.update key fun
      | none => some (.table .headed [])
      | some (.table .implied below) => some (.table .headed below)
      | some _ => none

/-- Begin the next table of an array of tables. -/
def openItem (parents : List String) (key : String) (entries : Entries) : Option Entries :=
  entries.within parents fun inner =>
    inner.update key fun
      | none => some (.tables [] [])
      | some (.tables earlier last) => some (.tables (earlier ++ [last]) [])
      | some _ => none

end Entries

mutual

/-- The setting that a finished node stands for. -/
def Node.setting : Node → Setting
  | .value setting => setting
  | .table _ entries => .table (Node.settings entries)
  | .tables earlier last => .list (Node.items earlier ++ [.table (Node.settings last)])

/-- The settings of a finished table. -/
def Node.settings : List (String × Node) → List (String × Setting)
  | [] => []
  | (key, node) :: others => (key, node.setting) :: Node.settings others

/-- The settings of the finished tables of an array. -/
def Node.items : List (List (String × Node)) → List Setting
  | [] => []
  | entries :: others => .table (Node.settings entries) :: Node.items others

end

end LiveRelay.Toml
