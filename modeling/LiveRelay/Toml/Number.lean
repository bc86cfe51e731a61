/-
Module: LiveRelay.Toml.Number
Purpose: TOML integers, floats, dates and times.
Main exports: integer, float, moment
-/
import LiveRelay.Text.Decimal
import LiveRelay.Text.Reader

namespace LiveRelay.Toml

open Text Reader

/-- Digits of a class with single underscores between them. -/
def digitRun (isDigit : Char → Bool) : Reader (List Char) := do
  let run ← takeSome fun c => isDigit c || c == '_'
  let digits := run.filter (· ≠ '_')
  let stray := run.head? = some '_' || run.getLast? = some '_' ||
    (run.zip run.tail).contains ('_', '_')
  if stray then failure
  pure digits

/-- An optional sign: whether it is a minus. -/
def sign : Reader Bool := do
  if (← maybe (char '-')).isSome then pure true
  else
    let _ ← maybe (char '+')
    pure false

/-- Decimal digits without a leading zero, or a single zero. -/
def decimalDigits : Reader (List Char) :=
  (do
    match ← next? with
    | some '0' =>
      char '0'
      pure ['0']
    | _ => digitRun Char.isDigit)

/-- A number that fits into 64 bits with a sign. -/
def inRange (value : Int) : Reader Int :=
  if Int64.minValue.toInt ≤ value ∧ value ≤ Int64.maxValue.toInt then pure value else failure

/-- The number that digits of a base write behind a marker such as `0x`. -/
def based (letter : Char) (base : Nat) (isDigit : Char → Bool) : Reader Int := do
  chars ['0', letter]
  let digits ← digitRun isDigit
  inRange (ofDigitValues base (digits.filterMap hexDigit?))

/-- An integer: decimal with an optional sign, or hexadecimal, octal or binary without one. -/
def integer : Reader Int :=
  based 'x' 16 (fun c => (hexDigit? c).isSome) <|>
  based 'o' 8 (fun c => '0' ≤ c && c ≤ '7') <|>
  based 'b' 2 (fun c => c == '0' || c == '1') <|>
  (do
    let negative ← sign
    let digits ← decimalDigits
    let value : Int := Nat.ofDigitChars 10 digits 0
    inRange (if negative then -value else value))

/-- An exponent part, as a whole number. -/
def exponent : Reader Int := do
  char 'e' <|> char 'E'
  let negative ← sign
  let digits ← digitRun Char.isDigit
  let value : Int := Nat.ofDigitChars 10 digits 0
  pure (if negative then -value else value)

/-- Whether a decimal number is too large for the 64-bit binary format: it rounds beyond the
largest number of the format. Exponents far outside the range are decided by size alone. -/
def overflows (digits : List Char) (exponent : Int) : Bool :=
  let mantissa := Nat.ofDigitChars 10 digits 0
  if mantissa = 0 then false
  else
    let size : Int := (digits.dropWhile (· == '0')).length + exponent
    if size < 309 then false
    else if 309 < size then true
    else
      (Nat.pow 2 1024 - Nat.pow 2 970) * Nat.pow 10 (-exponent).toNat ≤
        mantissa * Nat.pow 10 exponent.toNat

/-- A decimal number with a fraction, an exponent, or both. A number without a minus must not be
too large. -/
def decimalFloat : Reader String := do
  let negative ← sign
  let whole ← decimalDigits
  let fraction ← maybe do
    char '.'
    digitRun Char.isDigit
  let power ← maybe exponent
  if fraction.isNone && power.isNone then failure
  let places := fraction.getD []
  let shift := power.getD 0
  if !negative && overflows (whole ++ places) (shift - (places.length : Int)) then failure
  let signText := if negative then ['-'] else []
  pure (String.ofList (signText ++ whole ++ '.' :: places) ++ "e" ++ toString shift)

/-- A float: a decimal number, an infinity, or not a number. -/
def float : Reader String :=
  decimalFloat <|> (do
    let negative ← sign
    let name ← (do chars ['i', 'n', 'f']; pure "inf") <|> (do chars ['n', 'a', 'n']; pure "nan")
    pure (if negative then "-" ++ name else name))

/-- A number written with exactly so many decimal digits. -/
def fixedDigits : (count : Nat) → Reader Nat
  | 0 => pure 0
  | count + 1 => do
    let digit ← oneOf Char.isDigit
    let rest ← fixedDigits count
    pure ((digit.toNat - '0'.toNat) * Nat.pow 10 count + rest)

/-- The number of days of a month. -/
def daysOfMonth (year month : Nat) : Nat :=
  if month = 2 then
    if year % 4 = 0 ∧ (year % 100 ≠ 0 ∨ year % 400 = 0) then 29 else 28
  else if month = 4 ∨ month = 6 ∨ month = 9 ∨ month = 11 then 30
  else 31

/-- A day of the calendar. -/
def date : Reader Unit := do
  let year ← fixedDigits 4
  char '-'
  let month ← fixedDigits 2
  char '-'
  let day ← fixedDigits 2
  if 1 ≤ month ∧ month ≤ 12 ∧ 1 ≤ day ∧ day ≤ daysOfMonth year month then pure () else failure

/-- A time of day; a leap second counts. -/
def time : Reader Unit := do
  let hour ← fixedDigits 2
  char ':'
  let minute ← fixedDigits 2
  char ':'
  let second ← fixedDigits 2
  if hour ≤ 23 ∧ minute ≤ 59 ∧ second ≤ 60 then pure () else failure
  let _ ← maybe do
    char '.'
    takeSome Char.isDigit

/-- A distance from universal time. -/
def offset : Reader Unit :=
  char 'Z' <|> char 'z' <|> (do
    char '+' <|> char '-'
    let hour ← fixedDigits 2
    char ':'
    let minute ← fixedDigits 2
    if hour ≤ 23 ∧ minute ≤ 59 then pure () else failure)

/-- A date, a date with a time, or a time. The result is the text that was read. -/
def moment : Reader String := fun text => do
  let shape : Reader Unit :=
    (do
      date
      let timed ← maybe do
        char 'T' <|> char 't' <|> char ' '
        time
      if timed.isSome then
        let _ ← maybe offset) <|>
    time
  let (_, rest) ← shape text
  some (String.ofList (text.take (text.length - rest.length)), rest)

end LiveRelay.Toml
