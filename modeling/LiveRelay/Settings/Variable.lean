/-
Module: LiveRelay.Settings.Variable
Purpose: Settings given by environment variables: which key a variable sets and what its text means.
Main exports: Variable.value, Variable.layer
-/
import LiveRelay.Settings
import LiveRelay.Text.Blank
import LiveRelay.Toml.Text

namespace LiveRelay.Variable

open Text Reader

/-- A space or one of the control characters that count as white space in ASCII. -/
def isSpace (c : Char) : Bool :=
  c == ' ' || c == '\t' || c == '\n' || c == '\x0c' || c == '\r'

/-- Skip white space. -/
def spaces : Reader Unit := do
  let _ ← takeWhile isSpace

/-- A character that ends a bare word. -/
def isSeparator (c : Char) : Bool :=
  c == ',' || c == '\x7b' || c == '\x7d' || c == '[' || c == ']'

/-- A character that a key may hold without quotes. -/
def isKeyChar (c : Char) : Bool := c.isAlphanum || c == '_' || c == '-'

/-- A number with a point: an optional sign, digits on at least one side of the point, and perhaps
an exponent. -/
def pointed : Reader Unit := do
  let _ ← maybe (char '+' <|> char '-')
  let whole ← takeWhile Char.isDigit
  char '.'
  let places ← takeWhile Char.isDigit
  if whole.isEmpty && places.isEmpty then failure
  let _ ← maybe do
    char 'e' <|> char 'E'
    let _ ← maybe (char '+' <|> char '-')
    takeSome Char.isDigit

/-- What a bare word means: a number with a point, a whole number of at most 64 bits, or else
itself. -/
def word (written : List Char) : Setting :=
  if (readAll? pointed written).isSome then .fraction (String.ofList written)
  else
    match readInteger? written with
    | some value =>
      if Int64.minValue.toInt ≤ value ∧ value.toNat < UInt64.size then .integer value
      else .text (String.ofList written)
    | none => .text (String.ofList written)

/-- A text between double quotes. -/
def quoted : Reader String := do
  char '"'
  let body ← Toml.basicBody
  pure (String.ofList body)

/-- A single character between single quotes, whatever it is. -/
def quotedChar : Reader String := do
  char '\x27'
  let c ← oneOf fun _ => true
  char '\x27'
  pure (String.singleton c)

/-- The key of an entry in braces. -/
def entryKey : Reader String :=
  quoted <|> (do let name ← takeSome isKeyChar; pure (String.ofList name))

/-- Whether the text goes on with these letters. -/
def startsWith (letters : String) : Reader Bool := fun text =>
  some (letters.toList.isPrefixOf text, text)

mutual

/-- A value with the white space around it: a truth value, an array in brackets, a table in
braces, a quoted text or character, or a bare word. The count bounds the steps that reading it takes. -/
def valueWithin : (steps : Nat) → Reader Setting
  | 0 => failure
  | steps + 1 => do
    spaces
    let setting ← do
      if ← startsWith "true" then
        chars "true".toList
        pure (.boolean true)
      else if ← startsWith "false" then
        chars "false".toList
        pure (.boolean false)
      else
        match ← next? with
        | some '\x7b' =>
          char '\x7b'
          let entries ← entriesWithin steps
          pure (.table entries)
        | some '[' =>
          char '['
          let items ← itemsWithin steps
          pure (.list items)
        | some '"' => Setting.text <$> quoted
        | some '\x27' => Setting.text <$> quotedChar
        | _ =>
          let written ← takeWhile fun c => !isSeparator c
          pure (word (trimBlank written))
    spaces
    pure setting

/-- The rest of an array, up to its closing bracket. -/
def itemsWithin : (steps : Nat) → Reader (List Setting)
  | 0 => failure
  | steps + 1 => do
    if (← maybe (char ']')).isSome then pure []
    else
      let item ← valueWithin steps
      if (← maybe (char ',')).isSome then
        let others ← itemsWithin steps
        pure (item :: others)
      else
        char ']'
        pure [item]

/-- The rest of a table, up to its closing brace. Of a key that is set twice, the last value
counts. -/
def entriesWithin : (steps : Nat) → Reader Layer
  | 0 => failure
  | steps + 1 => do
    if (← maybe (char '\x7d')).isSome then pure []
    else
      spaces
      let name ← entryKey
      spaces
      char '='
      let setting ← valueWithin steps
      if (← maybe (char ',')).isSome then
        let others ← entriesWithin steps
        pure (Layer.over others [(name, setting)])
      else
        char '\x7d'
        pure [(name, setting)]

end

/-- What the text of a variable means. A text that is no complete value means itself. -/
def value (written : String) : Setting :=
  let text := written.toList
  (readAll? (valueWithin (2 * text.length + 2)) text).getD
    (.text (String.ofList (trimBlank text)))

/-- The letters that the name of a variable must begin with, in either case. -/
def marker : List Char := "relay_".toList

/-- The key that a variable sets: its name without the marker, in lower case. Blanks around the
name and around the key are no part of them. -/
def key? (name : String) : Option (List Char) :=
  let lowered := (trimBlank name.toList).map Char.toLower
  if marker.isPrefixOf lowered then some (trimBlank (lowered.drop marker.length)) else none

/-- A value under the parts of a dotted key. -/
def nested : List (List Char) → Setting → Setting
  | [], setting => setting
  | part :: others, setting => .table [(String.ofList part, nested others setting)]

/-- The entry that a variable adds to the layer of variables. No part of a dotted key is empty. -/
def entry? (name written : String) : Option (String × Setting) := do
  let key ← key? name
  let parts := pieces '.' key
  if [] ∈ parts then none
  else
    match parts with
    | [] => none
    | first :: others => some (String.ofList first, nested others (value written))

/-- The layer that variables set. Of two variables for one key the later one counts. -/
def layer (environment : List (String × String)) : Layer :=
  (environment.filterMap fun named => entry? named.1 named.2).reverse

end LiveRelay.Variable
