/-
Module: LiveRelay.Text.Decimal
Purpose: Whole numbers in decimal: writing them, padding them to a width, and reading them back
  with or without a sign.
Main exports: decimal, zeroPadded, readNatural?, readInteger?
-/

namespace LiveRelay.Text

/-- The decimal digits of a number, without leading zeros. -/
def decimal (n : Nat) : List Char := Nat.toDigits 10 n

/-- The decimal digits of a number with zeros put in front of them up to a width. A number with
more digits than the width keeps all of them. -/
def zeroPadded (width n : Nat) : List Char :=
  List.replicate (width - (decimal n).length) '0' ++ decimal n

/-- Read a text that holds decimal digits only, at least one of them. -/
def readNatural? (text : List Char) : Option Nat :=
  if text ≠ [] ∧ text.all Char.isDigit = true then some (Nat.ofDigitChars 10 text 0) else none

/-- Read decimal digits behind an optional sign. -/
def readInteger? : List Char → Option Int
  | '+' :: rest => (readNatural? rest).map Int.ofNat
  | '-' :: rest => (readNatural? rest).map fun n => -(n : Int)
  | text => (readNatural? text).map Int.ofNat

/-- The value of a hexadecimal digit in either letter case. -/
def hexDigit? (c : Char) : Option Nat :=
  if c.isDigit then some (c.toNat - '0'.toNat)
  else if 'a' ≤ c ∧ c ≤ 'f' then some (c.toNat - 'a'.toNat + 10)
  else if 'A' ≤ c ∧ c ≤ 'F' then some (c.toNat - 'A'.toNat + 10)
  else none

/-- Digits of a base, each given by its value, as one number: the first digit weighs most. -/
def ofDigitValues (base : Nat) (digits : List Nat) : Nat :=
  digits.foldl (fun total digit => total * base + digit) 0

end LiveRelay.Text
