/-
Module: LiveRelay.Text.Utf8
Purpose: The bytes of a text in UTF-8, the order of texts by those bytes, and reading bytes back.
Main exports: utf8, utf8_injective, BytesBefore, textOfUtf8?, startsText
-/

namespace LiveRelay.Text

/-- The bytes of a text in UTF-8. -/
def utf8 (text : String) : List UInt8 := text.toByteArray.data.toList

/-- Different texts have different bytes. -/
theorem utf8_injective {first second : String} (same : utf8 first = utf8 second) :
    first = second := by
  apply String.toByteArray_inj.1
  have data : first.toByteArray.data = second.toByteArray.data := Array.toList_inj.1 same
  cases firstBytes : first.toByteArray
  cases secondBytes : second.toByteArray
  simp_all

/-- One text comes before another when its bytes do, compared from the first byte on; a text comes
before every longer text that starts with it. -/
def BytesBefore (first second : String) : Prop := utf8 first < utf8 second

instance (first second : String) : Decidable (BytesBefore first second) :=
  inferInstanceAs (Decidable (utf8 first < utf8 second))

theorem BytesBefore.trans {first second third : String} (one : BytesBefore first second)
    (two : BytesBefore second third) : BytesBefore first third :=
  List.lt_trans one two

theorem BytesBefore.irrefl (text : String) : ¬ BytesBefore text text :=
  List.lt_irrefl (utf8 text)

/-- Of two different texts, one comes before the other. -/
theorem BytesBefore.of_not {first second : String} (not_first : ¬ BytesBefore first second)
    (different : first ≠ second) : BytesBefore second first := by
  rw [BytesBefore, List.not_lt] at not_first
  rcases Classical.em (utf8 second < utf8 first) with before | not_second
  · exact before
  · exact absurd (utf8_injective (List.le_antisymm (List.not_lt.1 not_second) not_first)) different

/-- The text that bytes stand for, when they are UTF-8. -/
def textOfUtf8? (bytes : List UInt8) : Option String := String.fromUTF8? ⟨bytes.toArray⟩

/-- Whether a text in UTF-8 starts with the bytes. At most three bytes are missing of the last
character, and where any bytes complete it, so does the least or the greatest byte that can stand
behind the first of a character, repeated. -/
def startsText (bytes : List UInt8) : Bool :=
  (List.range 4).any fun missing => [0x80, 0xbf].any fun last =>
    (textOfUtf8? (bytes ++ List.replicate missing last)).isSome

example : BytesBefore "01" "1" ∧ BytesBefore "1" "10" ∧ ¬ BytesBefore "é" "z" := by decide
example : startsText [0x7a, 0xe0] = true ∧ startsText [0x7a, 0xe0, 0x80] = false := by decide +kernel

end LiveRelay.Text
