/-
Module: LiveRelay.Text.Blank
Purpose: The white-space characters that surround a query or a setting and are not part of it.
Main exports: isBlank, trimBlank
-/
import LiveRelay.Text.Split

namespace LiveRelay.Text

/-- The ranges of the Unicode property White_Space, each as its first and last code point. -/
def blankRanges : List (Nat × Nat) :=
  [(0x09, 0x0D), (0x20, 0x20), (0x85, 0x85), (0xA0, 0xA0), (0x1680, 0x1680), (0x2000, 0x200A),
    (0x2028, 0x2029), (0x202F, 0x202F), (0x205F, 0x205F), (0x3000, 0x3000)]

/-- A character is blank when it has the Unicode property White_Space. -/
def isBlank (c : Char) : Bool :=
  blankRanges.any fun range => range.1 ≤ c.toNat && c.toNat ≤ range.2

/-- A text without the blanks at its two ends. -/
def trimBlank (text : List Char) : List Char :=
  trimWhere isBlank text

example : blankRanges.length = 10 ∧ isBlank '\u3000' = true ∧ isBlank '\u200b' = false := by decide

end LiveRelay.Text
