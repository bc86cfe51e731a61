/-
Module: LiveRelay.Proofs.NumberedChannels
Purpose: Sets of numbered channels: one channel for each number of a range, written with zeros in front
  of it, and in the order of the numbers where the zeros make all of them equally long.
Main exports: Padded, padded_iff, zeroPadded_injective, bytesBefore_zeroPadded,
  ChannelSet.numbered_keys
-/
import LiveRelay.ChannelSet
import Mathlib.Algebra.Ring.Nat
import Mathlib.Data.List.Nodup
import Mathlib.Order.Nat

namespace LiveRelay

namespace Text

variable {width n m : Nat}

/-! ### Padding -/

/-- Digits with zeros in front of them that make the text wide enough, and no wider than that: where
the digits are wide enough themselves, there is none. -/
structure Padded (width : Nat) (digits text : List Char) : Prop where
  zeros : ∃ count, text = List.replicate count '0' ++ digits
  wide : width ≤ text.length
  tight : text = digits ∨ text.length = width

theorem length_zeroPadded (width n : Nat) :
    (zeroPadded width n).length = max width (decimal n).length := by
  rw [zeroPadded, List.length_append, List.length_replicate]
  omega

/-- There is one way to pad a number. -/
theorem padded_iff {text : List Char} :
    Padded width (decimal n) text ↔ text = zeroPadded width n := by
  constructor
  · rintro ⟨⟨count, rfl⟩, wide, tight⟩
    have zeros : count = width - (decimal n).length := by
      rw [List.length_append, List.length_replicate] at wide
      rcases tight with bare | exactly
      · have none := congrArg List.length bare
        rw [List.length_append, List.length_replicate] at none
        omega
      · rw [List.length_append, List.length_replicate] at exactly
        omega
    rw [zeroPadded, zeros]
  · rintro rfl
    refine ⟨⟨_, rfl⟩, ?_, ?_⟩
    · rw [length_zeroPadded]
      exact Nat.le_max_left _ _
    · rcases Nat.le_total width (decimal n).length with long | short
      · left
        rw [zeroPadded, Nat.sub_eq_zero_of_le long]
        rfl
      · right
        rw [length_zeroPadded, Nat.max_eq_left short]

/-- Zeros in front of a number do not change what it is. -/
theorem ofDigitChars_zeroPadded (width n : Nat) :
    Nat.ofDigitChars 10 (zeroPadded width n) 0 = n := by
  rw [zeroPadded, Nat.ofDigitChars_append, Nat.ofDigitChars_replicate_zero, Nat.mul_zero, decimal,
    Nat.ofDigitChars_ten_toDigits]

theorem zeroPadded_injective (width : Nat) : Function.Injective (zeroPadded width) := by
  intro n m same
  rw [← ofDigitChars_zeroPadded width n, same, ofDigitChars_zeroPadded]

/-- The last digit of a padded number stands behind the padded number of the others. -/
theorem zeroPadded_concat {d : Nat} (positive : 0 < width) (digit : d < 10) :
    zeroPadded (width + 1) (10 * n + d) = zeroPadded width n ++ [d.digitChar] := by
  rcases Nat.eq_zero_or_pos n with rfl | more
  · have zeros : List.replicate width '0' = List.replicate (width - 1) '0' ++ ['0'] := by
      rw [← List.replicate_succ', Nat.sub_add_cancel positive]
    have single : decimal d = [d.digitChar] := Nat.toDigits_of_lt_base digit
    rw [zeroPadded, Nat.mul_zero, Nat.zero_add, single]
    exact congrArg (· ++ _) zeros
  · have last : decimal (10 * n + d) = decimal n ++ [d.digitChar] := by
      rw [decimal, ← Nat.toDigits_append_toDigits (by decide) more digit,
        Nat.toDigits_of_lt_base digit]
      rfl
    rw [zeroPadded, last, List.length_append, List.length_singleton, Nat.add_sub_add_right,
      ← List.append_assoc]
    rfl

/-! ### Order -/

theorem utf8_ofList (text : List Char) :
    utf8 (String.ofList text) = text.flatMap String.utf8EncodeChar := by
  simp [utf8, String.toByteArray_ofList, List.utf8Encode]

theorem utf8_ofList_append (first second : List Char) :
    utf8 (String.ofList (first ++ second)) =
      utf8 (String.ofList first) ++ utf8 (String.ofList second) := by
  rw [utf8_ofList, utf8_ofList, utf8_ofList, List.flatMap_append]

/-- Where two texts part, what follows makes no difference. -/
theorem append_lt_append {first second tail rest : List UInt8} (before : first < second)
    (length : first.length = second.length) : first ++ tail < second ++ rest := by
  induction first generalizing second with
  | nil =>
      rw [List.eq_nil_of_length_eq_zero length.symm] at before
      exact absurd before (List.lt_irrefl [])
  | cons byte first ih =>
      obtain ⟨other, second, rfl⟩ := List.exists_cons_of_length_eq_add_one length.symm
      rw [List.cons_append, List.cons_append, List.cons_lt_cons_iff]
      rcases List.cons_lt_cons_iff.1 before with less | ⟨same, before⟩
      · exact .inl less
      · exact .inr ⟨same, ih before (Nat.succ.inj length)⟩

theorem zeroPadded_one (digit : n < 10) : zeroPadded 1 n = [n.digitChar] := by
  rw [zeroPadded, decimal, Nat.toDigits_of_lt_base digit]
  rfl

theorem div_ten_lt (fits : n < 10 ^ (width + 1)) : n / 10 < 10 ^ width :=
  Nat.div_lt_of_lt_mul (by rwa [Nat.pow_succ'] at fits)

/-- A number that is not wider than the padding has one byte for each place. -/
theorem length_utf8_zeroPadded (positive : 0 < width) (fits : n < 10 ^ width) :
    (utf8 (String.ofList (zeroPadded width n))).length = width := by
  have single : ∀ d < 10, (utf8 (String.ofList [d.digitChar])).length = 1 := by decide
  induction width, positive using Nat.le_induction generalizing n with
  | base => rw [zeroPadded_one fits, single n fits]
  | succ width positive ih =>
      have digit : n % 10 < 10 := Nat.mod_lt n (by decide)
      rw [← Nat.div_add_mod n 10, zeroPadded_concat positive digit, utf8_ofList_append,
        List.length_append, ih (div_ten_lt fits), single _ digit]

/-- Padded numbers stand in the order of the numbers, as long as none is wider than the padding: they
differ in front of the last digit, or in the last digit alone. -/
theorem bytesBefore_zeroPadded (positive : 0 < width) (less : n < m) (fits : m < 10 ^ width) :
    BytesBefore (String.ofList (zeroPadded width n)) (String.ofList (zeroPadded width m)) := by
  have digits : ∀ m < 10, ∀ n < m,
      BytesBefore (String.ofList [n.digitChar]) (String.ofList [m.digitChar]) := by decide
  induction width, positive using Nat.le_induction generalizing n m with
  | base =>
      rw [zeroPadded_one (Nat.lt_trans less fits), zeroPadded_one fits]
      exact digits m fits n less
  | succ width positive ih =>
      have digit (d : Nat) : d % 10 < 10 := Nat.mod_lt d (by decide)
      rw [BytesBefore, ← Nat.div_add_mod n 10, ← Nat.div_add_mod m 10,
        zeroPadded_concat positive (digit n), zeroPadded_concat positive (digit m),
        utf8_ofList_append, utf8_ofList_append]
      rcases Nat.lt_or_eq_of_le (Nat.div_le_div_right (c := 10) (Nat.le_of_lt less)) with front | same
      · refine append_lt_append (ih front (div_ten_lt fits)) ?_
        rw [length_utf8_zeroPadded positive (Nat.lt_trans front (div_ten_lt fits)),
          length_utf8_zeroPadded positive (div_ten_lt fits)]
      · rw [same]
        exact List.append_left_lt (digits _ (digit m) _ (by omega))

end Text

open Text

namespace ChannelSet

variable {channels : List Channel} {first last : UInt32} {width : Nat}

/-- A set that is built from channels of which none stands twice has as many channels. -/
theorem size_ofList (distinct : channels.Nodup) : (ofList channels).size = channels.length := by
  have nodup : (ofList channels).channels.Nodup := by
    refine (ofList channels).increasing.imp fun {one other} before same => ?_
    subst same
    exact BytesBefore.irrefl one before
  exact ((List.perm_ext_iff_of_nodup nodup distinct).2 fun _ => mem_ofList).length_eq

/-- The channels of the numbers in a range, in the order of the numbers. -/
def numberedKeys (first last : UInt32) (width : Nat) : List Channel :=
  (List.range' first.toNat (last.toNat + 1 - first.toNat)).map fun n =>
    String.ofList (zeroPadded width n)

theorem length_numberedKeys (first last : UInt32) (width : Nat) :
    (numberedKeys first last width).length = last.toNat + 1 - first.toNat := by
  rw [numberedKeys, List.length_map, List.length_range']

theorem nodup_numberedKeys (first last : UInt32) (width : Nat) :
    (numberedKeys first last width).Nodup := by
  refine List.Nodup.map (fun n m same => ?_) List.nodup_range'
  exact zeroPadded_injective width (String.ofList_injective same)

/-- Every number of the range has a channel, and each channel is that of such a number. -/
theorem mem_numberedKeys {channel : Channel} :
    channel ∈ numberedKeys first last width ↔
      ∃ n : UInt32, first ≤ n ∧ n ≤ last ∧ Padded width (decimal n.toNat) channel.toList := by
  simp only [numberedKeys, List.mem_map, List.mem_range'_1, padded_iff, UInt32.le_iff_toNat_le]
  constructor
  · rintro ⟨n, ⟨above, below⟩, rfl⟩
    have below : n ≤ last.toNat := by omega
    have fits : n < UInt32.size := Nat.lt_of_le_of_lt below last.toNat_lt
    refine ⟨UInt32.ofNat n, ?_⟩
    rw [UInt32.toNat_ofNat_of_lt' fits, String.toList_ofList]
    exact ⟨above, below, rfl⟩
  · rintro ⟨n, above, below, written⟩
    exact ⟨n.toNat, ⟨above, by omega⟩, String.toList_inj.1 (written ▸ String.toList_ofList)⟩

theorem increasing_numberedKeys (fits : (decimal last.toNat).length ≤ width) :
    (numberedKeys first last width).Pairwise BytesBefore := by
  have positive : 0 < width := Nat.lt_of_lt_of_le Nat.length_toDigits_pos fits
  have most : last.toNat < 10 ^ width := (Nat.length_toDigits_le_iff (by decide) positive).1 fits
  rw [numberedKeys, List.pairwise_map]
  refine (List.pairwise_lt_range' ..).imp_of_mem fun {n m} _ member less => ?_
  have within : m ≤ last.toNat := by
    have bounds := List.mem_range'_1.1 member
    omega
  exact bytesBefore_zeroPadded positive less (Nat.lt_of_le_of_lt within most)

/-- The set of a range has one channel for each number in it, and none where the range is empty. A
text is one of its channels exactly if it is the decimal form of a number in the range, padded with
zeros to the width and no further. Where the last number is not wider than the width, the channels
stand in the order of their numbers. -/
theorem numbered_keys (first last : UInt32) (width : Nat) :
    (numbered first last width).size =
      (if first ≤ last then last.toNat - first.toNat + 1 else 0) ∧
    (∀ channel, (numbered first last width).contains channel = true ↔
      ∃ n : UInt32, first ≤ n ∧ n ≤ last ∧ Padded width (decimal n.toNat) channel.toList) ∧
    ((decimal last.toNat).length ≤ width →
      (numbered first last width).channels = numberedKeys first last width) := by
  have built : numbered first last width = ofList (numberedKeys first last width) := rfl
  rw [built]
  refine ⟨?size, fun channel => ?contains, fun fits => ?order⟩
  case size =>
    rw [size_ofList (nodup_numberedKeys first last width), length_numberedKeys]
    split
    · next within =>
      have within : first.toNat ≤ last.toNat := within
      omega
    · next beyond =>
      have beyond : last.toNat < first.toNat := Nat.lt_of_not_le beyond
      omega
  case contains => rw [contains_iff, mem_ofList, mem_numberedKeys]
  case order => exact channels_ofList (increasing_numberedKeys fits)

/-- With a number that is wider than the padding the order of the bytes is another one. -/
example : (numbered 8 11 1).channels = ["10", "11", "8", "9"] := by decide +kernel

end ChannelSet

end LiveRelay
