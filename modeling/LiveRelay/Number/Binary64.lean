/-
Module: LiveRelay.Number.Binary64
Purpose: Rounding to the numbers of the 64-bit binary format, in exact arithmetic.
Main exports: Binary64, Binary64.ofRatio, Binary64.ofNat, Binary64.add, Binary64.div, Binary64.floor
-/

namespace LiveRelay.Number

/-- A number of the 64-bit binary format that is not negative: a mantissa below `2 ^ 53` times a
power of two. The numbers of this library stay far from both ends of the exponent's range, so
the exponent is not bounded. -/
structure Binary64 where
  mantissa : Nat
  exponent : Int
deriving Repr, DecidableEq, Inhabited

namespace Binary64

def zero : Binary64 := ⟨0, 0⟩

/-- A quotient rounded to the nearest whole number, a half to the even neighbour. -/
def divNearestEven (numerator denominator : Nat) : Nat :=
  let quotient := numerator / denominator
  let remainder := numerator % denominator
  if denominator < 2 * remainder then quotient + 1
  else if 2 * remainder = denominator ∧ quotient % 2 = 1 then quotient + 1
  else quotient

/-- A ratio after multiplication by a power of two. -/
def scaled (numerator denominator : Nat) (power : Int) : Nat × Nat :=
  (numerator * Nat.pow 2 power.toNat, denominator * Nat.pow 2 (-power).toNat)

/-- The number nearest to a ratio, of two equally near the one with an even mantissa. -/
def ofRatio (numerator denominator : Nat) : Binary64 :=
  if numerator = 0 then zero
  else
    let guess : Int := (Nat.log2 numerator : Int) - (Nat.log2 denominator : Int) - 53
    let fits (exponent : Int) : Bool :=
      let (n, d) := scaled numerator denominator (-exponent)
      n / d < Nat.pow 2 53
    let exponent := if fits guess then guess else guess + 1
    let (n, d) := scaled numerator denominator (-exponent)
    ⟨divNearestEven n d, exponent⟩

/-- The number nearest to a whole number. -/
def ofNat (n : Nat) : Binary64 := ofRatio n 1

/-- The value as a numerator and a denominator. -/
def toRatio (x : Binary64) : Nat × Nat := scaled x.mantissa 1 x.exponent

/-- The sum, rounded once. -/
def add (x y : Binary64) : Binary64 :=
  let (xn, xd) := x.toRatio
  let (yn, yd) := y.toRatio
  ofRatio (xn * yd + yn * xd) (xd * yd)

/-- The quotient, rounded once; nothing for division by zero. -/
def div (x y : Binary64) : Binary64 :=
  let (xn, xd) := x.toRatio
  let (yn, yd) := y.toRatio
  ofRatio (xn * yd) (xd * yn)

/-- The whole part. -/
def floor (x : Binary64) : Nat :=
  let (n, d) := x.toRatio
  n / d

example : (ofNat (2 ^ 53 + 1)).floor = 2 ^ 53 ∧ (ofNat (2 ^ 53 + 3)).floor = 2 ^ 53 + 4 := by decide
example : (div (ofNat 1) (ofNat 10)) = ⟨7205759403792794, -56⟩ := by decide

end Binary64

end LiveRelay.Number
