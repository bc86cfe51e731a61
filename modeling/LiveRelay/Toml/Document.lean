/-
Module: LiveRelay.Toml.Document
Purpose: Reading a TOML document into the layer of settings that it writes.
Main exports: Toml.layer?
-/
import LiveRelay.Toml.Number
import LiveRelay.Toml.Table
import LiveRelay.Toml.Text

namespace LiveRelay.Toml

open Text Reader

/-- The innermost of several brackets may stand this deep. -/
def deepestNesting : Nat := 79

/-- A key as its parents and its last part. -/
def splitKey (parts : String × List String) : List String × String :=
  let path := parts.1 :: parts.2
  (path.dropLast, path.getLastD parts.1)

mutual

/-- A value. The first count bounds the brackets that may still be opened inside it, the second
the steps that reading it takes. -/
def value (room : Nat) : (steps : Nat) → Reader Setting
  | 0 => failure
  | steps + 1 => do
    match ← next? with
    | some '"' => Setting.text <$> text
    | some '\'' => Setting.text <$> text
    | some '[' =>
      if room = 0 then failure
      char '['
      filler
      let items ← arrayItems (room - 1) steps
      pure (.list items)
    | some '{' =>
      if room = 0 then failure
      char '{'
      blanks
      if (← maybe (char '}')).isSome then pure (.table [])
      else
        let entries ← inlineEntries (room - 1) steps []
        pure (.table (Node.settings entries))
    | some 't' =>
      chars "true".toList
      pure (.boolean true)
    | some 'f' =>
      chars "false".toList
      pure (.boolean false)
    | _ =>
      (Setting.moment <$> moment) <|> (Setting.fraction <$> float) <|>
        (Setting.integer <$> integer)

/-- The rest of an array, up to its closing bracket. A comma may follow the last item. -/
def arrayItems (room : Nat) : (steps : Nat) → Reader (List Setting)
  | 0 => failure
  | steps + 1 => do
    if (← maybe (char ']')).isSome then pure []
    else
      let item ← value room steps
      filler
      if (← maybe (char ',')).isSome then
        filler
        let others ← arrayItems room steps
        pure (item :: others)
      else
        char ']'
        pure [item]

/-- The rest of a table in braces, up to its closing brace, added to the entries read so far. No
comma may follow the last entry. -/
def inlineEntries (room : Nat) : (steps : Nat) → Entries → Reader Entries
  | 0, _ => failure
  | steps + 1, entries => do
    let (path, name) := splitKey (← key)
    char '='
    blanks
    let setting ← value room steps
    blanks
    match entries.insertDotted path name setting with
    | none => failure
    | some entries =>
      if (← maybe (char ',')).isSome then inlineEntries room steps entries
      else
        char '}'
        pure entries

end

/-- A value of a text, with steps enough for its length. -/
def anyValue : Reader Setting := fun text => value deepestNesting (2 * text.length + 2) text

/-- A document read so far: its tables, and the path of the table that keys belong to. -/
structure Draft where
  root : Entries
  current : List String
deriving Repr

namespace Draft

def empty : Draft := ⟨[], []⟩

/-- Read a header and enter the table that it defines. -/
def header (draft : Draft) : Reader Draft := do
  char '['
  if (← maybe (char '[')).isSome then
    let (parents, name) := splitKey (← key)
    chars [']', ']']
    match draft.root.openItem parents name with
    | some root => pure ⟨root, parents ++ [name]⟩
    | none => failure
  else
    let (parents, name) := splitKey (← key)
    char ']'
    match draft.root.openTable parents name with
    | some root => pure ⟨root, parents ++ [name]⟩
    | none => failure

/-- Read a key and its value into the current table. -/
def entry (draft : Draft) : Reader Draft := do
  let (path, name) := splitKey (← key)
  char '='
  blanks
  let setting ← anyValue
  match draft.root.within draft.current (Entries.insertDotted path name setting) with
  | some root => pure { draft with root := root }
  | none => failure

/-- Read the remaining lines. The count bounds them. -/
def lines : (count : Nat) → Draft → Reader Draft
  | 0, _ => failure
  | count + 1, draft => do
    blanks
    match ← next? with
    | none => pure draft
    | some '#' =>
      endOfLine
      lines count draft
    | some '\n' =>
      newline
      lines count draft
    | some '\r' =>
      newline
      lines count draft
    | some '[' =>
      let draft ← draft.header
      endOfLine
      lines count draft
    | some _ =>
      let draft ← draft.entry
      endOfLine
      lines count draft

end Draft

/-- The layer of settings that a document writes, if it is a TOML document. A byte order mark in
front of it is skipped. -/
def layer? (document : String) : Option Layer :=
  let text :=
    match document.toList with
    | '\ufeff' :: rest => rest
    | text => text
  (readAll? (Draft.lines (text.length + 1) .empty) text).map fun draft => Node.settings draft.root

end LiveRelay.Toml
