/-
Module: LiveRelay.Proofs.Ingest.Routing
Purpose: What is expected of a router, and that the search among the patterns of a listener meets it
  wherever it takes no empty text for a channel.
Main exports: PathPattern.Matches, PathPattern.Precedes, Router.Follows, Router.Picks,
  search_picks, search_nonempty, search_follows
-/
import LiveRelay.Ingest.Dispatch

namespace LiveRelay

open Text

namespace PathPattern

/-- A pattern matches the segments of a path and captures parts of it. A segment of the pattern
stands for itself, a channel for one segment that is not empty, and a rest for all that is left,
which is not empty either. -/
inductive Matches : PathPattern → List (List Char) → Capture → Prop
  | done : Matches [] [] .nothing
  | literal {segment pattern segments capture} (others : Matches pattern segments capture) :
      Matches (.literal segment :: pattern) (segment :: segments) capture
  | channel {segment pattern segments capture} (nonempty : segment ≠ [])
      (others : Matches pattern segments capture) :
      Matches (.channel :: pattern) (segment :: segments) { capture with channel := some segment }
  | rest {segments} (nonempty : joinWith '/' segments ≠ []) :
      Matches [.rest] segments ⟨none, some (joinWith '/' segments)⟩

/-- One pattern goes before another: where they part, a segment as it is written goes before a
channel, and a channel before a rest. -/
inductive Precedes : PathPattern → PathPattern → Prop
  | literal_channel {segment first second} : Precedes (.literal segment :: first) (.channel :: second)
  | literal_rest {segment first second} : Precedes (.literal segment :: first) (.rest :: second)
  | channel_rest {first second} : Precedes (.channel :: first) (.rest :: second)
  | later {part first second} (others : Precedes first second) :
      Precedes (part :: first) (part :: second)

variable {pattern first second : PathPattern} {segments : List (List Char)} {capture : Capture}

/-- Behind the same parts, the order is that of what follows. -/
theorem Precedes.append (parts : PathPattern) (order : first.Precedes second) :
    PathPattern.Precedes (parts ++ first) (parts ++ second) := by
  induction parts with
  | nil => exact order
  | cons part others ih => exact .later ih

end PathPattern

section Router

variable {τ : Type}

/-- What is expected of a router at a path: what it finds is one of the patterns, which matches the
path and has no other that matches it before it, and it finds one wherever one matches. -/
structure Router.Follows (router : Router τ) (candidates : List (PathPattern × τ))
    (segments : List (List Char)) : Prop where
  best : ∀ capture target, router candidates segments = some (capture, target) →
    ∃ pattern, (pattern, target) ∈ candidates ∧ pattern.Matches segments capture ∧
      ∀ other ∈ candidates, ∀ taken, other.1.Matches segments taken → ¬ other.1.Precedes pattern
  complete : router candidates segments = none →
    ∀ candidate ∈ candidates, ∀ capture, ¬ candidate.1.Matches segments capture

/-- What a router finds is always one of the patterns that it is given. -/
def Router.Picks (router : Router τ) : Prop :=
  ∀ candidates segments capture target, router candidates segments = some (capture, target) →
    ∃ pattern, (pattern, target) ∈ candidates

variable {candidates : List (PathPattern × τ)} {pattern : PathPattern} {part : PatternPart}
  {segment : List Char} {segments others : List (List Char)} {capture : Capture} {target : τ}

theorem mem_goingOn :
    (pattern, target) ∈ goingOn part candidates ↔ (part :: pattern, target) ∈ candidates := by
  simp only [goingOn, List.mem_filterMap, Prod.exists]
  constructor
  · rintro ⟨whole, other, member, found⟩
    split at found
    · cases found
    · next first rest =>
      split at found
      · next same =>
        cases found
        rwa [← same]
      · cases found
  · intro member
    exact ⟨part :: pattern, target, member, by simp⟩

theorem mem_of_usedUp (found : usedUp candidates = some target) : ([], target) ∈ candidates := by
  obtain ⟨⟨pattern, target⟩, first, rfl⟩ := Option.map_eq_some_iff.1 found
  have ended : pattern = [] := by simpa using List.find?_some first
  exact ended ▸ List.mem_of_find?_eq_some first

theorem not_mem_of_usedUp (missing : usedUp candidates = none) : ([], target) ∉ candidates := by
  intro member
  have going := List.find?_eq_none.1 (Option.map_eq_none_iff.1 missing) _ member
  simp at going

/-! ### The search -/

/-- How the search finds something behind a segment: by the segment itself; by a channel, where the
segment itself leads nowhere; or by a rest, where neither leads anywhere. -/
theorem search_cons_some (found : search candidates (segment :: others) = some (capture, target)) :
    search (goingOn (.literal segment) candidates) others = some (capture, target) ∨
    (search (goingOn (.literal segment) candidates) others = none ∧
      ¬ (others = [] ∧ segment = []) ∧
      ∃ later, search (goingOn .channel candidates) others = some (later, target) ∧
        capture = { later with channel := some segment }) ∨
    (search (goingOn (.literal segment) candidates) others = none ∧
      (segment ≠ [] → search (goingOn .channel candidates) others = none) ∧
      joinWith '/' (segment :: others) ≠ [] ∧
      usedUp (goingOn .rest candidates) = some target ∧
      capture = ⟨none, some (joinWith '/' (segment :: others))⟩) := by
  rw [search] at found
  split at found
  · cases found
  cases byLiteral : search (goingOn (.literal segment) candidates) others with
  | some result =>
      rw [byLiteral, Option.orElse_some] at found
      exact .inl found
  | none =>
  rw [byLiteral, Option.orElse_none] at found
  refine .inr ?_
  cases byChannel : search (goingOn .channel candidates) others with
  | some result =>
      by_cases last : others = [] ∧ segment = []
      · right
        simp only [last, and_self, if_true, Option.orElse_none, joinWith] at found
        cases found
      · simp only [if_neg last, byChannel, Option.map_some, Option.orElse_some,
          Option.some.injEq, Prod.mk.injEq] at found
        obtain ⟨rfl, rfl⟩ := found
        exact .inl ⟨rfl, last, result.1, rfl, rfl⟩
  | none =>
      simp only [byChannel, Option.map_none, ite_self, Option.orElse_none] at found
      split at found
      · cases found
      · next nonempty =>
        simp only [Option.map_eq_some_iff, Prod.mk.injEq] at found
        obtain ⟨_, used, rfl, rfl⟩ := found
        exact .inr ⟨rfl, fun _ => rfl, nonempty, used, rfl⟩

/-- Where the search finds nothing behind a segment, no way leads on. -/
theorem search_cons_none (missing : search candidates (segment :: others) = none) :
    candidates = [] ∨
    (search (goingOn (.literal segment) candidates) others = none ∧
      (segment ≠ [] → search (goingOn .channel candidates) others = none) ∧
      (joinWith '/' (segment :: others) ≠ [] → usedUp (goingOn .rest candidates) = none)) := by
  rw [search] at missing
  split at missing
  · next nobody => exact .inl (List.isEmpty_iff.1 nobody)
  refine .inr ?_
  cases byLiteral : search (goingOn (.literal segment) candidates) others with
  | some result =>
      rw [byLiteral, Option.orElse_some] at missing
      cases missing
  | none =>
  rw [byLiteral, Option.orElse_none] at missing
  cases byChannel : search (goingOn .channel candidates) others with
  | some result =>
      by_cases last : others = [] ∧ segment = []
      · obtain ⟨rfl, rfl⟩ := last
        exact ⟨rfl, fun nonempty => absurd rfl nonempty, fun nonempty => absurd rfl nonempty⟩
      · simp [if_neg last, byChannel] at missing
  | none =>
      refine ⟨rfl, fun _ => rfl, fun nonempty => ?_⟩
      simpa only [byChannel, Option.map_none, ite_self, Option.orElse_none, if_neg nonempty,
        Option.map_eq_none_iff] using missing

/-- The search finds something at every path that a pattern matches. -/
theorem search_complete (missing : search candidates segments = none) :
    ∀ candidate ∈ candidates, ∀ capture, ¬ candidate.1.Matches segments capture := by
  rintro ⟨pattern, target⟩ member capture (matched : pattern.Matches segments capture)
  induction matched generalizing candidates with
  | done =>
      rw [search] at missing
      exact not_mem_of_usedUp (Option.map_eq_none_iff.1 missing) member
  | literal _ ih =>
      rcases search_cons_none missing with rfl | ⟨byLiteral, _, _⟩
      · cases member
      · exact ih byLiteral (mem_goingOn.2 member)
  | channel nonempty _ ih =>
      rcases search_cons_none missing with rfl | ⟨_, byChannel, _⟩
      · cases member
      · exact ih (byChannel nonempty) (mem_goingOn.2 member)
  | @rest segments nonempty =>
      cases segments with
      | nil => exact nonempty rfl
      | cons segment others =>
          rcases search_cons_none missing with rfl | ⟨_, _, byRest⟩
          · cases member
          · exact not_mem_of_usedUp (byRest nonempty) (mem_goingOn.2 member)

theorem search_nil (segments : List (List Char)) :
    search ([] : List (PathPattern × τ)) segments = none := by
  cases segments <;> rfl

/-- Patterns that name no channel capture none. -/
theorem channel_of_search (unnamed : ∀ candidate ∈ candidates, .channel ∉ candidate.1)
    (found : search candidates segments = some (capture, target)) : capture.channel = none := by
  induction segments generalizing candidates capture target with
  | nil =>
      rw [search] at found
      obtain ⟨_, _, same⟩ := Option.map_eq_some_iff.1 found
      cases same
      rfl
  | cons segment others ih =>
      rcases search_cons_some found with deeper | ⟨_, _, later, deeper, _⟩ | ⟨_, _, _, _, rfl⟩
      · refine ih (fun candidate member named => ?_) deeper
        exact unnamed _ (mem_goingOn.1 member) (List.mem_cons_of_mem _ named)
      · have nobody : goingOn .channel candidates = [] := by
          rw [List.eq_nil_iff_forall_not_mem]
          exact fun _ member => unnamed _ (mem_goingOn.1 member) List.mem_cons_self
        rw [nobody, search_nil] at deeper
        cases deeper
      · rfl

/-- What the search finds without an empty text is the best of what matches, among patterns that
name a channel at most once. -/
theorem search_best (once : ∀ candidate ∈ candidates, candidate.1.count .channel ≤ 1)
    (found : search candidates segments = some (capture, target))
    (nonempty : [] ∉ capture.texts) :
    ∃ pattern, (pattern, target) ∈ candidates ∧ pattern.Matches segments capture ∧
      ∀ other ∈ candidates, ∀ taken, other.1.Matches segments taken →
        ¬ other.1.Precedes pattern := by
  induction segments generalizing candidates capture target with
  | nil =>
      rw [search] at found
      obtain ⟨_, used, same⟩ := Option.map_eq_some_iff.1 found
      cases same
      refine ⟨[], mem_of_usedUp used, .done, ?_⟩
      rintro ⟨other, place⟩ _ _ _ order
      cases order
  | cons segment others ih =>
      -- Every way that goes before the one taken was tried, and led nowhere.
      have fewer (part : PatternPart) :
          ∀ candidate ∈ goingOn part candidates, candidate.1.count .channel ≤ 1 :=
        fun candidate member =>
          Nat.le_trans List.count_le_count_cons (once _ (mem_goingOn.1 member))
      rcases search_cons_some found with
        deeper | ⟨noLiteral, _, later, deeper, rfl⟩ | ⟨noLiteral, noChannel, rest, used, rfl⟩
      · obtain ⟨pattern, member, matched, best⟩ := ih (fewer _) deeper nonempty
        refine ⟨_, mem_goingOn.1 member, .literal matched, ?_⟩
        rintro ⟨other, place⟩ entered taken fits order
        cases order with
        | later order =>
            cases fits with
            | literal fits => exact best _ (mem_goingOn.2 entered) _ fits order
      · have named : segment ≠ [] := fun empty => nonempty (by simp [Capture.texts, empty])
        -- No second channel replaces this one, so what lies below captures no empty text either.
        have unnamed : later.channel = none := by
          refine channel_of_search (fun candidate member again => ?_) deeper
          have twice := once _ (mem_goingOn.1 member)
          rw [List.count_cons_self] at twice
          exact absurd (List.count_pos_iff.2 again) (by omega)
        have below : [] ∉ later.texts := by
          rw [Capture.texts, unnamed]
          exact fun empty => nonempty (List.mem_append_right _ empty)
        obtain ⟨pattern, member, matched, best⟩ := ih (fewer _) deeper below
        refine ⟨_, mem_goingOn.1 member, .channel named matched, ?_⟩
        rintro ⟨other, place⟩ entered taken fits order
        cases order with
        | literal_channel =>
            cases fits with
            | literal fits => exact search_complete noLiteral _ (mem_goingOn.2 entered) _ fits
        | later order =>
            cases fits with
            | channel _ fits => exact best _ (mem_goingOn.2 entered) _ fits order
      · refine ⟨_, mem_goingOn.1 (mem_of_usedUp used), .rest rest, ?_⟩
        rintro ⟨other, place⟩ entered taken fits order
        cases order with
        | literal_rest =>
            cases fits with
            | literal fits => exact search_complete noLiteral _ (mem_goingOn.2 entered) _ fits
        | channel_rest =>
            cases fits with
            | channel named fits =>
                exact search_complete (noChannel named) _ (mem_goingOn.2 entered) _ fits
        | later order => cases order

/-- The search picks one of the patterns at every path, whatever it captures there. -/
theorem search_picks : Router.Picks (@search τ) := by
  intro candidates segments capture target found
  induction segments generalizing candidates capture with
  | nil =>
      rw [search] at found
      obtain ⟨_, used, same⟩ := Option.map_eq_some_iff.1 found
      cases same
      exact ⟨[], mem_of_usedUp used⟩
  | cons segment others ih =>
      rcases search_cons_some found with
        deeper | ⟨_, _, later, deeper, _⟩ | ⟨_, _, _, used, _⟩
      · obtain ⟨pattern, member⟩ := ih _ _ deeper
        exact ⟨_, mem_goingOn.1 member⟩
      · obtain ⟨pattern, member⟩ := ih _ _ deeper
        exact ⟨_, mem_goingOn.1 member⟩
      · exact ⟨_, mem_goingOn.1 (mem_of_usedUp used)⟩

/-- The search takes no empty text for a channel where no slash follows another. -/
theorem search_nonempty (single : ∀ segment ∈ segments.dropLast, segment ≠ [])
    (found : search candidates segments = some (capture, target)) : [] ∉ capture.texts := by
  induction segments generalizing candidates capture target with
  | nil =>
      rw [search] at found
      obtain ⟨_, _, same⟩ := Option.map_eq_some_iff.1 found
      cases same
      exact List.not_mem_nil
  | cons segment others ih =>
      have rest : ∀ segment ∈ others.dropLast, segment ≠ [] := by
        intro other member
        cases others with
        | nil => cases member
        | cons next later => exact single other (List.mem_cons_of_mem _ member)
      rcases search_cons_some found with
        deeper | ⟨_, unended, later, deeper, rfl⟩ | ⟨_, _, nonempty, _, rfl⟩
      · exact ih rest deeper
      · have below := ih rest deeper
        have named : segment ≠ [] := by
          cases others with
          | nil => exact fun empty => unended ⟨rfl, empty⟩
          | cons next later => exact single segment List.mem_cons_self
        simp only [Capture.texts, List.mem_append, not_or] at below ⊢
        exact ⟨by simpa using named.symm, below.2⟩
      · simpa [Capture.texts] using nonempty.symm

/-- The search is as expected of a router at every path where it takes no empty text for a
channel. -/
theorem search_follows (once : ∀ candidate ∈ candidates, candidate.1.count .channel ≤ 1)
    (nonempty : ∀ capture target, search candidates segments = some (capture, target) →
      [] ∉ capture.texts) : Router.Follows search candidates segments where
  best := fun capture target found => search_best once found (nonempty capture target found)
  complete := search_complete

end Router

end LiveRelay
