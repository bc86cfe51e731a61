/-
Module: LiveRelay.Text.Split
Purpose: Cutting a text at a separator and trimming its ends, over lists of characters.
Main exports: pieces, joinWith, cutFirst, trimWhere, joinWith_pieces, pieces_append,
  joinWith_append, cutFirst_eq_some_iff
-/

namespace LiveRelay.Text

/-- The pieces of a text between the separators: always one more piece than separators. -/
def pieces (separator : Char) : List Char → List (List Char)
  | [] => [[]]
  | c :: rest =>
    if c = separator then [] :: pieces separator rest
    else
      match pieces separator rest with
      | [] => [[c]]
      | first :: others => (c :: first) :: others

/-- Write pieces one after another with a separator between each two. -/
def joinWith (separator : Char) : List (List Char) → List Char
  | [] => []
  | [piece] => piece
  | piece :: others => piece ++ separator :: joinWith separator others

/-- Cut a text at its first separator into what stands before and after it. -/
def cutFirst (separator : Char) : List Char → Option (List Char × List Char)
  | [] => none
  | c :: rest =>
    if c = separator then some ([], rest)
    else (cutFirst separator rest).map fun parts => (c :: parts.1, parts.2)

/-- A text without the characters of a class at its two ends. -/
def trimWhere (inClass : Char → Bool) (text : List Char) : List Char :=
  ((text.dropWhile inClass).reverse.dropWhile inClass).reverse

theorem pieces_ne_nil (separator : Char) (text : List Char) : pieces separator text ≠ [] := by
  cases text with
  | nil => simp [pieces]
  | cons c rest =>
    simp only [pieces]
    split
    · simp
    · split <;> simp

/-- Joining the pieces gives the text back. -/
theorem joinWith_pieces (separator : Char) (text : List Char) :
    joinWith separator (pieces separator text) = text := by
  induction text with
  | nil => rfl
  | cons c rest ih =>
    simp only [pieces]
    have nonempty := pieces_ne_nil separator rest
    split
    · next same =>
      subst same
      cases parts : pieces c rest with
      | nil => exact absurd parts nonempty
      | cons first others => simp [joinWith, ← parts, ih]
    · cases parts : pieces separator rest with
      | nil => exact absurd parts nonempty
      | cons first others =>
        rw [parts] at ih
        cases others <;> simp_all [joinWith]

/-- Joining two lists of pieces puts one separator between them. -/
theorem joinWith_append (separator : Char) {first second : List (List Char)}
    (left : first ≠ []) (right : second ≠ []) :
    joinWith separator (first ++ second) =
      joinWith separator first ++ separator :: joinWith separator second := by
  induction first with
  | nil => exact absurd rfl left
  | cons piece others ih =>
    cases others with
    | nil =>
      cases second with
      | nil => exact absurd rfl right
      | cons => rfl
    | cons => simp [joinWith, ← ih]

/-- A separator between two texts keeps their pieces apart. -/
theorem pieces_append (separator : Char) (first second : List Char) :
    pieces separator (first ++ separator :: second) =
      pieces separator first ++ pieces separator second := by
  induction first with
  | nil => simp [pieces]
  | cons c rest ih =>
    rw [List.cons_append, pieces, ih, pieces]
    split
    · rfl
    · cases parts : pieces separator rest with
      | nil => exact absurd parts (pieces_ne_nil separator rest)
      | cons one others => rfl

/-- A text without the separator is its only piece. -/
theorem pieces_of_not_mem {separator : Char} {text : List Char} (absent : separator ∉ text) :
    pieces separator text = [text] := by
  induction text with
  | nil => rfl
  | cons c rest ih =>
    rw [List.mem_cons, not_or] at absent
    rw [pieces, if_neg (Ne.symm absent.1), ih absent.2]

/-- Joined pieces are an empty text only where there is at most one piece, and it is empty. -/
theorem joinWith_eq_nil_iff {separator : Char} {parts : List (List Char)} :
    joinWith separator parts = [] ↔ parts = [] ∨ parts = [[]] := by
  rcases parts with _ | ⟨first, _ | ⟨second, others⟩⟩ <;> simp [joinWith]

/-- No piece contains the separator. -/
theorem not_mem_of_mem_pieces {separator : Char} {text piece : List Char}
    (member : piece ∈ pieces separator text) : separator ∉ piece := by
  induction text generalizing piece with
  | nil => simp_all [pieces]
  | cons c rest ih =>
    simp only [pieces] at member
    split at member
    · rcases List.mem_cons.1 member with rfl | member
      · simp
      · exact ih member
    · next different =>
      split at member
      · next parts => exact absurd parts (pieces_ne_nil separator rest)
      · next first others parts =>
        rcases List.mem_cons.1 member with rfl | member
        · have := @ih first (by simp [parts])
          simp [this, Ne.symm different]
        · exact ih (by simp [parts, member])

/-- A cut is the only way to write the text with a separator-free first part. -/
theorem cutFirst_eq_some_iff {separator : Char} {text before after : List Char} :
    cutFirst separator text = some (before, after) ↔
      text = before ++ separator :: after ∧ separator ∉ before := by
  induction text generalizing before with
  | nil => simp [cutFirst]
  | cons c rest ih =>
    by_cases same : c = separator
    · subst same
      cases before with
      | nil => simp [cutFirst, eq_comm]
      | cons b before => simp [cutFirst]; intro h; simp [h]
    · cases before with
      | nil => simp [cutFirst, same]
      | cons b before =>
        simp only [cutFirst, same, if_false, Option.map_eq_some_iff, Prod.mk.injEq, List.cons.injEq,
          List.cons_append, List.mem_cons, not_or]
        constructor
        · rintro ⟨⟨x, y⟩, cut, ⟨rfl, rfl⟩, rfl⟩
          obtain ⟨whole, absent⟩ := ih.1 cut
          exact ⟨⟨rfl, whole⟩, Ne.symm same, absent⟩
        · rintro ⟨⟨rfl, whole⟩, _, absent⟩
          exact ⟨(before, after), ih.2 ⟨whole, absent⟩, ⟨rfl, rfl⟩, rfl⟩

/-- A text has no cut exactly when the separator is not in it. -/
theorem cutFirst_eq_none_iff {separator : Char} {text : List Char} :
    cutFirst separator text = none ↔ separator ∉ text := by
  induction text with
  | nil => simp [cutFirst]
  | cons c rest ih =>
    by_cases same : c = separator
    · simp [cutFirst, same]
    · simp [cutFirst, same, ih, Ne.symm same]

end LiveRelay.Text
