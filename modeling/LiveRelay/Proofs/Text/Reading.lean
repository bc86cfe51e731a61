/-
Module: LiveRelay.Proofs.Text.Reading
Purpose: What readers take from the front of a text, step by step, and that numerals are read as the
  numbers they were written for.
Main exports: Reader.bind_of_some, Reader.takeSome_append, toDigits_induction,
  ofDigitValues_toDigits
-/
import LiveRelay.Text.Decimal
import LiveRelay.Text.Reader
import LiveRelay.Proofs.Text.Trimmed

namespace LiveRelay.Text

/-! ### Readers one after another -/

namespace Reader

variable {α β : Type} {reader other : Reader α} {next : α → Reader β} {value : α}
  {text rest : List Char}

theorem bind_of_some (reads : reader text = some (value, rest)) :
    (reader >>= next) text = next value rest := by
  simp only [bind, StateT.bind, reads, Option.bind_some]

theorem bind_of_none (refuses : reader text = none) : (reader >>= next) text = none := by
  simp only [bind, StateT.bind, refuses, Option.bind_none]

/-- What one reader leaves, the next one reads. -/
theorem bind_eq_some_iff {result : β} :
    (reader >>= next) text = some (result, rest) ↔
      ∃ value left, reader text = some (value, left) ∧ next value left = some (result, rest) := by
  simp only [bind, StateT.bind, Option.bind_eq_some_iff, Prod.exists]

theorem map_of_some {f : α → β} (reads : reader text = some (value, rest)) :
    (f <$> reader) text = some (f value, rest) := by
  simp [Functor.map, StateT.map, reads]

theorem orElse_of_some (reads : reader text = some (value, rest)) :
    (reader <|> other) text = some (value, rest) := by
  change (reader text <|> other text) = _
  rw [reads]
  rfl

theorem orElse_of_none (refuses : reader text = none) : (reader <|> other) text = other text := by
  change (reader text <|> other text) = _
  rw [refuses]
  rfl

theorem maybe_of_some (reads : reader text = some (value, rest)) :
    maybe reader text = some (some value, rest) :=
  orElse_of_some (map_of_some reads)

theorem maybe_of_none (refuses : reader text = none) : maybe reader text = some (none, text) := by
  have nothing : (some <$> reader) text = none := by simp [Functor.map, StateT.map, refuses]
  exact orElse_of_none nothing

theorem char_self (c : Char) (rest : List Char) : char c (c :: rest) = some ((), rest) := by
  have taken : oneOf (· == c) (c :: rest) = some (c, rest) := if_pos (beq_self_eq_true c)
  exact bind_of_some taken

theorem char_of_head? {c : Char} (differs : text.head? ≠ some c) : char c text = none := by
  refine bind_of_none ?_
  cases text with
  | nil => rfl
  | cons d rest =>
    have other : (d == c) = false := beq_false_of_ne fun same => differs (same ▸ rfl)
    simp [oneOf, other]

/-- A run of a class is taken to its end. -/
theorem takeSome_append {inClass : Char → Bool} {run : List Char} (nonempty : run ≠ [])
    (all : ∀ c ∈ run, inClass c = true) (stops : Stops inClass rest) :
    takeSome inClass (run ++ rest) = some (run, rest) := by
  have taken : takeWhile inClass (run ++ rest) = some (run, rest) := by
    cases rest with
    | nil => simpa [takeWhile] using all
    | cons c rest =>
      have outside : inClass c = false := stops c rfl
      simp [takeWhile, List.takeWhile_append_of_pos all, List.dropWhile_append_of_pos all, outside]
  refine (bind_of_some taken).trans ?_
  rw [if_neg (by simpa using nonempty)]
  rfl

/-- Whatever run is taken, all behind it is left. -/
theorem left_of_takeSome {inClass : Char → Bool} {run : List Char}
    (taken : takeSome inClass text = some (run, rest)) : rest = text.dropWhile inClass := by
  obtain ⟨_, left, passed, taken⟩ := bind_eq_some_iff.1 taken
  cases passed
  split at taken
  · cases taken
  · cases taken
    rfl

/-- Where no character of a class stands next, there is no run of it. -/
theorem takeSome_of_stops {inClass : Char → Bool} (stops : Stops inClass text) :
    takeSome inClass text = none := by
  have taken : takeWhile inClass text = some ([], text) := by
    cases text with
    | nil => rfl
    | cons c rest =>
      have outside : inClass c = false := stops c rfl
      simp [takeWhile, outside]
  exact bind_of_some taken

end Reader

/-! ### Numerals -/

/-- Induction along the digits of a number, the last of them split off. -/
theorem toDigits_induction {base : Nat} (two : 1 < base) {motive : Nat → List Char → Prop}
    (small : ∀ d < base, motive d [d.digitChar])
    (more : ∀ n d, 0 < n → d < base → motive n (Nat.toDigits base n) →
      motive (base * n + d) (Nat.toDigits base n ++ [d.digitChar])) (n : Nat) :
    motive n (Nat.toDigits base n) := by
  induction n using Nat.strongRecOn with
  | _ n ih =>
    rw [Nat.toDigits_eq_if two]
    split
    · next below => exact small n below
    · next large =>
      have fewer : n / base < n := Nat.div_lt_self (by omega) two
      have positive : 0 < n / base := Nat.div_pos (by omega) (by omega)
      have last : n % base < base := Nat.mod_lt n (by omega)
      have whole := more (n / base) (n % base) positive last (ih (n / base) fewer)
      rwa [Nat.div_add_mod] at whole

/-- Where a decimal numeral stands, all of its digits are taken. -/
theorem takeSome_decimal (n : Nat) {rest : List Char} (stops : Stops Char.isDigit rest) :
    Reader.takeSome Char.isDigit (decimal n ++ rest) = some (decimal n, rest) :=
  Reader.takeSome_append Nat.toDigits_ne_nil
    (fun _ member => Nat.isDigit_of_mem_toDigits (by decide) (by decide) member) stops

/-- Only zero is written with a zero in front. -/
theorem head?_decimal (n : Nat) : 0 < n → (decimal n).head? ≠ some '0' := by
  refine toDigits_induction (by decide) (motive := fun n digits => 0 < n → digits.head? ≠ some '0')
    (by decide) ?_ n
  intro n d positive _ front _
  obtain ⟨c, rest, digits⟩ := List.exists_cons_of_ne_nil (Nat.toDigits_ne_nil (n := n) (b := 10))
  rw [digits] at front ⊢
  exact front positive

/-- A digit of base sixteen reads as its value. -/
theorem hexDigit?_digitChar : ∀ d < 16, hexDigit? d.digitChar = some d := by decide

/-- Hexadecimal digits read as the number that they were written for. -/
theorem ofDigitValues_toDigits (n : Nat) :
    ofDigitValues 16 ((Nat.toDigits 16 n).filterMap hexDigit?) = n := by
  refine toDigits_induction (by decide)
    (motive := fun n digits => ofDigitValues 16 (digits.filterMap hexDigit?) = n) ?_ ?_ n
  · intro d small
    simp [hexDigit?_digitChar d small, ofDigitValues]
  · intro n d _ small front
    rw [List.filterMap_append, ofDigitValues, List.foldl_append, ← ofDigitValues, front]
    simp [hexDigit?_digitChar d small, Nat.mul_comm]

theorem isSome_hexDigit?_of_mem_toDigits (n : Nat) :
    ∀ c ∈ Nat.toDigits 16 n, (hexDigit? c).isSome = true := by
  refine toDigits_induction (by decide)
    (motive := fun _ digits => ∀ c ∈ digits, (hexDigit? c).isSome = true) ?_ ?_ n
  · intro d small c member
    rw [List.mem_singleton.1 member, hexDigit?_digitChar d small]
    rfl
  · intro n d _ small front c member
    rcases List.mem_append.1 member with member | member
    · exact front c member
    · rw [List.mem_singleton.1 member, hexDigit?_digitChar d small]
      rfl

end LiveRelay.Text
