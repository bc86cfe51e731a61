/-
Module: LiveRelay.Text.Reader
Purpose: Reading from the front of a text: a reader takes what it recognizes and leaves the rest.
Main exports: Reader, Reader.char, Reader.takeWhile, Reader.maybe, Reader.readAll?
-/

namespace LiveRelay.Text

/-- A reader consumes the front of a text, or refuses and consumes nothing. -/
abbrev Reader := StateT (List Char) Option

namespace Reader

/-- The character that stands next, left where it is. -/
def next? : Reader (Option Char) := fun text => some (text.head?, text)

/-- Take one character of a class. -/
def oneOf (inClass : Char → Bool) : Reader Char
  | c :: rest => if inClass c then some (c, rest) else none
  | [] => none

/-- Take exactly this character. -/
def char (expected : Char) : Reader Unit := do
  let _ ← oneOf (· == expected)

/-- Take exactly these characters. -/
def chars : List Char → Reader Unit
  | [] => pure ()
  | c :: rest => do
    char c
    chars rest

/-- Take the longest run of characters of a class, which may be empty. -/
def takeWhile (inClass : Char → Bool) : Reader (List Char) := fun text =>
  some (text.takeWhile inClass, text.dropWhile inClass)

/-- Take the longest run of characters of a class, at least one of them. -/
def takeSome (inClass : Char → Bool) : Reader (List Char) := do
  let run ← takeWhile inClass
  if run.isEmpty then failure
  pure run

/-- Read if the reader recognizes the text, and otherwise take nothing. -/
def maybe {α : Type} (reader : Reader α) : Reader (Option α) :=
  (some <$> reader) <|> pure none

/-- Succeed at the end of the text only. -/
def atEnd : Reader Unit
  | [] => some ((), [])
  | _ :: _ => none

/-- Read a whole text, with nothing left over. -/
def readAll? {α : Type} (reader : Reader α) (text : List Char) : Option α :=
  match reader text with
  | some (value, []) => some value
  | _ => none

end Reader

end LiveRelay.Text
