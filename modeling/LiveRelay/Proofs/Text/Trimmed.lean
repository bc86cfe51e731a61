/-
Module: LiveRelay.Proofs.Text.Trimmed
Purpose: Trimming as a relation: what is left of a text when all characters of a class are removed
  from both of its ends, and nothing else.
Main exports: Text.Stops, Text.Bare, Text.Wraps, Text.trimWhere_eq_iff
-/
import LiveRelay.Text.Split
import Mathlib.Data.List.TakeWhile

namespace LiveRelay.Text

variable {inClass : Char → Bool} {text core : List Char}

/-- The text goes on with no character of a class. -/
def Stops (inClass : Char → Bool) (text : List Char) : Prop := ∀ c ∈ text.head?, inClass c = false

/-- A text that neither begins nor ends with a character of a class. -/
structure Bare (inClass : Char → Bool) (text : List Char) : Prop where
  first : ∀ c ∈ text.head?, inClass c = false
  last : ∀ c ∈ text.getLast?, inClass c = false

instance : Decidable (Bare inClass text) :=
  decidable_of_iff (text.head?.all (!inClass ·) ∧ text.getLast?.all (!inClass ·)) <| by
    simp only [Option.all_eq_true, Bool.not_eq_true']
    exact ⟨fun ⟨first, last⟩ => ⟨first, last⟩, fun ⟨first, last⟩ => ⟨first, last⟩⟩

/-- A text that is another one with characters of a class on both sides, any number of them. -/
def Wraps (inClass : Char → Bool) (text core : List Char) : Prop :=
  ∃ before after, text = before ++ core ++ after ∧ (∀ c ∈ before, inClass c = true) ∧
    ∀ c ∈ after, inClass c = true

/-- Where the characters of a class stop, none of them stands next. -/
theorem not_inClass_of_head?_dropWhile {c : Char} (next : c ∈ (text.dropWhile inClass).head?) :
    inClass c = false := by
  have stopped := List.head?_dropWhile_not inClass text
  rw [Option.mem_def.1 next] at stopped
  exact stopped

theorem dropWhile_of_stops (stops : Stops inClass text) : text.dropWhile inClass = text := by
  cases text with
  | nil => rfl
  | cons c rest => rw [List.dropWhile_cons_of_neg (by simp [stops c rfl])]

theorem wraps_trimWhere (inClass : Char → Bool) (text : List Char) :
    Wraps inClass text (trimWhere inClass text) := by
  refine ⟨text.takeWhile inClass, ((text.dropWhile inClass).reverse.takeWhile inClass).reverse,
    ?_, fun c member => List.mem_takeWhile_imp member, fun c member => ?_⟩
  · rw [trimWhere, List.append_assoc, ← List.reverse_append, List.takeWhile_append_dropWhile,
      List.reverse_reverse, List.takeWhile_append_dropWhile]
  · exact List.mem_takeWhile_imp (List.mem_reverse.1 member)

theorem bare_trimWhere (inClass : Char → Bool) (text : List Char) :
    Bare inClass (trimWhere inClass text) where
  first := by
    intro c first
    -- What is left begins where the text without its front does.
    have front : trimWhere inClass text <+: text.dropWhile inClass := by
      rw [trimWhere, ← List.reverse_suffix, List.reverse_reverse]
      exact List.dropWhile_suffix inClass
    obtain ⟨after, whole⟩ := front
    have next : c ∈ (text.dropWhile inClass).head? := by
      rw [← whole, List.head?_append, Option.mem_def.1 first]
      rfl
    exact not_inClass_of_head?_dropWhile next
  last := by
    intro c last
    rw [trimWhere, List.getLast?_reverse] at last
    exact not_inClass_of_head?_dropWhile last

/-- Trimming leaves a text exactly if that text has nothing to trim and all around it is of the
class. -/
theorem trimWhere_eq_iff :
    trimWhere inClass text = core ↔ Bare inClass core ∧ Wraps inClass text core := by
  constructor
  · rintro rfl
    exact ⟨bare_trimWhere inClass text, wraps_trimWhere inClass text⟩
  · rintro ⟨bare, before, after, rfl, leading, trailing⟩
    have front :
        (before ++ core ++ after).dropWhile inClass = (core ++ after).dropWhile inClass := by
      rw [List.append_assoc, List.dropWhile_append_of_pos leading]
    rw [trimWhere, front]
    cases core with
    | nil =>
      have nothing : ([] ++ after).dropWhile inClass = [] := List.dropWhile_eq_nil_iff.2 trailing
      rw [nothing]
      rfl
    | cons c rest =>
      have kept : (c :: rest ++ after).dropWhile inClass = c :: rest ++ after :=
        dropWhile_of_stops (by simpa [Stops] using bare.first)
      have back : ∀ d ∈ after.reverse, inClass d = true :=
        fun d member => trailing d (List.mem_reverse.1 member)
      have ends : Stops inClass (c :: rest).reverse := by
        rw [Stops, List.head?_reverse]
        exact bare.last
      rw [kept, List.reverse_append, List.dropWhile_append_of_pos back, dropWhile_of_stops ends,
        List.reverse_reverse]

theorem Wraps.refl (text : List Char) : Wraps inClass text text :=
  ⟨[], [], by simp, by simp, by simp⟩

end LiveRelay.Text
