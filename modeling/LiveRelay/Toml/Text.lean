/-
Module: LiveRelay.Toml.Text
Purpose: The four kinds of TOML strings, keys, and the blanks, comments and line ends between them.
Main exports: text, key, blanks, filler, endOfLine
-/
import LiveRelay.Text.Decimal
import LiveRelay.Text.Reader

namespace LiveRelay.Toml

open Text Reader

/-- A space or a tab. -/
def isSpace (c : Char) : Bool := c == ' ' || c == '\t'

/-- A character that a comment may hold: no control character but the tab. -/
def isPrintable (c : Char) : Bool := c == '\t' || (' ' ≤ c && c ≠ '\x7f')

/-- A character that stands for itself between double quotes. -/
def isPlain (c : Char) : Bool := isPrintable c && c ≠ '"' && c ≠ '\\'

/-- A character that a key without quotes may hold. -/
def isBare (c : Char) : Bool := c.isAlphanum || c == '_' || c == '-'

/-- Skip spaces and tabs. -/
def blanks : Reader Unit := do
  let _ ← takeWhile isSpace

/-- Take one line end: a line feed, or a carriage return and a line feed. -/
def newline : Reader Unit := char '\n' <|> chars ['\r', '\n']

/-- Skip a comment if one stands here. -/
def comment : Reader Unit := do
  if (← maybe (char '#')).isSome then
    let _ ← takeWhile isPrintable

/-- Finish a line: blanks, perhaps a comment, then a line end or the end of the document. -/
def endOfLine : Reader Unit := do
  blanks
  comment
  newline <|> atEnd

/-- Skip blanks, comments and line ends. The count bounds the lines skipped. -/
def fillerLines : Nat → Reader Unit
  | 0 => failure
  | count + 1 => do
    blanks
    comment
    if (← maybe newline).isSome then fillerLines count

/-- Skip everything between two items of an array. -/
def filler : Reader Unit := fun text => fillerLines (text.length + 1) text

/-- The character that hexadecimal digits name, unless the number is no character. -/
def namedChar? (digits : List Char) : Option Char := do
  let values ← digits.mapM hexDigit?
  let code := ofDigitValues 16 values
  if code.isValidChar then some (Char.ofNat code) else none

/-- The character that a letter behind a backslash stands for. -/
def escapedChar? : Char → Option Char
  | 'b' => some '\x08'
  | 't' => some '\t'
  | 'n' => some '\n'
  | 'f' => some '\x0c'
  | 'r' => some '\r'
  | '"' => some '"'
  | '\\' => some '\\'
  | _ => none

/-- Put a character in front of what the rest of a string reads as. -/
def prepend (c : Char) (rest : Option (List Char × List Char)) : Option (List Char × List Char) :=
  rest.map fun result => (c :: result.1, result.2)

/-- The content of a string up to the closing double quote, on one line. -/
def basicBody : Reader (List Char)
  | '"' :: rest => some ([], rest)
  | '\\' :: 'u' :: a :: b :: c :: d :: rest =>
    (namedChar? [a, b, c, d]).bind fun named => prepend named (basicBody rest)
  | '\\' :: 'U' :: a :: b :: c :: d :: e :: f :: g :: h :: rest =>
    (namedChar? [a, b, c, d, e, f, g, h]).bind fun named => prepend named (basicBody rest)
  | '\\' :: letter :: rest =>
    (escapedChar? letter).bind fun escaped => prepend escaped (basicBody rest)
  | c :: rest => if isPlain c then prepend c (basicBody rest) else none
  | [] => none

/-- Whether only blanks stand before the next line end. -/
def blankToLineEnd (text : List Char) : Bool :=
  match text.dropWhile isSpace with
  | '\n' :: _ => true
  | '\r' :: '\n' :: _ => true
  | _ => false

/-- The content of a string up to three closing double quotes, on any number of lines. One or two
quotes may stand directly before the closing three. A backslash at the end of a line removes all
blanks and line ends up to the next other character; the flag says that they are being removed. -/
def longBasicBody (removing : Bool) : Reader (List Char)
  | '"' :: '"' :: '"' :: '"' :: '"' :: rest => some (['"', '"'], rest)
  | '"' :: '"' :: '"' :: '"' :: rest => some (['"'], rest)
  | '"' :: '"' :: '"' :: rest => some ([], rest)
  | '\\' :: 'u' :: a :: b :: c :: d :: rest =>
    (namedChar? [a, b, c, d]).bind fun named => prepend named (longBasicBody false rest)
  | '\\' :: 'U' :: a :: b :: c :: d :: e :: f :: g :: h :: rest =>
    (namedChar? [a, b, c, d, e, f, g, h]).bind fun named =>
      prepend named (longBasicBody false rest)
  | '\\' :: next :: rest =>
    if blankToLineEnd (next :: rest) then longBasicBody true (next :: rest)
    else (escapedChar? next).bind fun escaped => prepend escaped (longBasicBody false rest)
  | '\r' :: '\n' :: rest =>
    if removing then longBasicBody true rest else prepend '\n' (longBasicBody false rest)
  | c :: rest =>
    if removing && (isSpace c || c == '\n') then longBasicBody true rest
    else if isPlain c || c == '"' || c == '\n' then prepend c (longBasicBody false rest)
    else none
  | [] => none

/-- The content of a string up to the closing single quote, on one line and without escapes. -/
def literalBody : Reader (List Char)
  | '\'' :: rest => some ([], rest)
  | c :: rest => if isPrintable c then prepend c (literalBody rest) else none
  | [] => none

/-- The content of a string up to three closing single quotes, on any number of lines and without
escapes. One or two quotes may stand directly before the closing three. -/
def longLiteralBody : Reader (List Char)
  | '\'' :: '\'' :: '\'' :: '\'' :: '\'' :: rest => some (['\'', '\''], rest)
  | '\'' :: '\'' :: '\'' :: '\'' :: rest => some (['\''], rest)
  | '\'' :: '\'' :: '\'' :: rest => some ([], rest)
  | '\r' :: '\n' :: rest => prepend '\n' (longLiteralBody rest)
  | c :: rest =>
    if isPrintable c || c == '\n' then prepend c (longLiteralBody rest) else none
  | [] => none

/-- A string of one line: between double quotes with escapes, or between single quotes without. -/
def shortText : Reader String := do
  let body ← (do char '"'; basicBody) <|> (do char '\''; literalBody)
  pure (String.ofList body)

/-- A string of any kind. A line end directly behind three opening quotes is not part of it. -/
def text : Reader String :=
  (do
    chars ['"', '"', '"']
    let _ ← maybe newline
    let body ← longBasicBody false
    pure (String.ofList body)) <|>
  (do
    chars ['\'', '\'', '\'']
    let _ ← maybe newline
    let body ← longLiteralBody
    pure (String.ofList body)) <|>
  shortText

/-- One part of a key. -/
def simpleKey : Reader String :=
  shortText <|> (do let bare ← takeSome isBare; pure (String.ofList bare))

/-- The most parts that a key may have. -/
def longestKey : Nat := 79

/-- The parts of a key behind the first. The count bounds them. -/
def keyTail : Nat → Reader (List String)
  | 0 => failure
  | count + 1 => do
    blanks
    if (← maybe (char '.')).isSome then
      blanks
      let part ← simpleKey
      let others ← keyTail count
      pure (part :: others)
    else pure []

/-- A key: one part, or several with points between them. Blanks around parts do not count. -/
def key : Reader (String × List String) := do
  blanks
  let first ← simpleKey
  let others ← keyTail longestKey
  pure (first, others)

end LiveRelay.Toml
