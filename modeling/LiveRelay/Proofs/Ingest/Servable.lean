/-
Module: LiveRelay.Proofs.Ingest.Servable
Purpose: The paths of routes, as texts and as patterns. A path tells the base of its route. Routes with
  plain bases can always be served side by side: each of their paths is read as a pattern, and no two
  of these patterns are in each other's way.
Main exports: IngestRoute.IsPlain, IngestRoute.ending_unique, IngestRoute.mem_paths_iff,
  IngestRoute.base_of_shared_path, readPath?_of_plain, canServe_of_plain
-/
import LiveRelay.Ingest.PathSyntax
import LiveRelay.Proofs.Ingest.Fits
import Mathlib.Data.List.Basic

namespace LiveRelay

open Text

namespace IngestRoute

/-- A base that stands for itself in a path pattern: it holds no brace, and none of its segments
starts with a colon or a star. -/
def IsPlain (route : IngestRoute) : Prop :=
  (∀ c ∈ route.base.toList, c ≠ '\x7b' ∧ c ≠ '\x7d') ∧
    ∀ segment ∈ pieces '/' route.base.toList,
      segment.head? ≠ some ':' ∧ segment.head? ≠ some '*'

-- The letters of the base are looked through, not all letters that there are.
instance (route : IngestRoute) : Decidable route.IsPlain :=
  @instDecidableAnd _ _
    (List.decidableBAll (fun c => c ≠ '\x7b' ∧ c ≠ '\x7d') route.base.toList)
    (List.decidableBAll (fun segment => segment.head? ≠ some ':' ∧ segment.head? ≠ some '*')
      (pieces '/' route.base.toList))

/-- How the paths of a route go on behind the base, and how that is read. -/
def endings : List (List Char × List PathToken) :=
  [("/\x7bchannel\x7d/".toList, [.char '/', .part, .char '/']),
    ("/\x7bchannel\x7d/\x7b*rest\x7d".toList, [.char '/', .part, .char '/', .rest]),
    ("/\x7bchannel\x7d".toList, [.char '/', .part])]

/-- The tokens of the patterns of a route. -/
def tokens (route : IngestRoute) : List (List PathToken) :=
  endings.map fun ending => route.root.map PathToken.char ++ ending.2

variable {route other : IngestRoute} {path : String}

theorem toList_path (route : IngestRoute) :
    route.path.toList = route.root ++ "/\x7bchannel\x7d".toList := by
  rw [path, root]
  split <;> simp

theorem map_toList_paths (route : IngestRoute) :
    route.paths.map String.toList = endings.map fun ending => route.root ++ ending.1 := by
  simp [paths, endings, toList_path]

theorem root_inj (same : route.root = other.root) : route.base = other.base := by
  rw [root, root] at same
  split at same
  · next plain =>
    split at same
    · next also => rw [plain, also]
    · cases same
  · split at same
    · cases same
    · exact String.toList_inj.1 (List.cons.inj same).2

/-- A path is told apart into what stands in front of its ending, and the ending: no two endings have
the same last two characters. -/
theorem ending_unique {first second : List Char} {one two : List Char × List PathToken}
    (here : one ∈ endings) (there : two ∈ endings) (same : first ++ one.1 = second ++ two.1) :
    first = second ∧ one = two := by
  have long : ∀ ending ∈ endings, 2 ≤ ending.1.reverse.length := by decide
  have told : ∀ one ∈ endings, ∀ two ∈ endings,
      one.1.reverse.take 2 = two.1.reverse.take 2 → one = two := by decide
  have lasts := congrArg (fun text : List Char => text.reverse.take 2) same
  simp only [List.reverse_append] at lasts
  rw [List.take_append_of_le_length (long one here),
    List.take_append_of_le_length (long two there)] at lasts
  obtain rfl := told one here two there lasts
  exact ⟨List.append_cancel_right same, rfl⟩

/-- The paths of a route are its root with each of the endings. -/
theorem mem_paths_iff :
    path ∈ route.paths ↔ ∃ ending ∈ endings, path.toList = route.root ++ ending.1 := by
  rw [← List.mem_map_of_injective (fun _ _ => String.toList_inj.1), map_toList_paths, List.mem_map]
  simp only [eq_comm]

theorem path_mem_paths (route : IngestRoute) : route.path ∈ route.paths := by simp [paths]

/-- Routes that share a path have the same base. -/
theorem base_of_shared_path (own : path ∈ route.paths) (also : path ∈ other.paths) :
    route.base = other.base := by
  obtain ⟨one, here, text⟩ := mem_paths_iff.1 own
  obtain ⟨two, there, same⟩ := mem_paths_iff.1 also
  exact root_inj (ending_unique here there (text.symm.trans same)).1

end IngestRoute

/-! ### Reading a plain path -/

theorem mapM_eq_some_map {α β : Type} {f : α → Option β} {g : α → β} {elements : List α}
    (each : ∀ x ∈ elements, f x = some (g x)) : elements.mapM f = some (elements.map g) := by
  induction elements with
  | nil => rfl
  | cons x others ih =>
      obtain ⟨first, rest⟩ := List.forall_mem_cons.1 each
      rw [List.mapM_cons, first, ih rest]
      rfl

section Reading

variable {plain tail : List Char} {c : Char}

theorem withoutDoubledBraces_append (braceless : ∀ c ∈ plain, c ≠ '\x7b' ∧ c ≠ '\x7d') :
    withoutDoubledBraces (plain ++ tail) =
      plain.map (fun c => (c, false)) ++ withoutDoubledBraces tail := by
  induction plain with
  | nil => rfl
  | cons c others ih =>
      obtain ⟨opening, closing⟩ := braceless c List.mem_cons_self
      have rest := ih fun c member => braceless c (List.mem_cons_of_mem _ member)
      rw [List.cons_append, withoutDoubledBraces, rest, List.map_cons, List.cons_append]
      · exact fun _ same => absurd same opening
      · exact fun _ same => absurd same closing

theorem readTokens?_append (braceless : ∀ c ∈ plain, c ≠ '\x7b' ∧ c ≠ '\x7d') (steps : Nat)
    (marked : List (Char × Bool)) :
    readTokens? (plain.length + steps) (plain.map (fun c => (c, false)) ++ marked) =
      (readTokens? steps marked).map (plain.map PathToken.char ++ ·) := by
  induction plain with
  | nil =>
      rw [List.length_nil, Nat.zero_add]
      exact Option.map_id'.symm
  | cons c others ih =>
      obtain ⟨opening, closing⟩ := braceless c List.mem_cons_self
      have rest := ih fun c member => braceless c (List.mem_cons_of_mem _ member)
      rw [List.length_cons, Nat.add_right_comm, List.map_cons, List.cons_append, readTokens?,
        if_neg fun both => closing both.1, if_neg fun both => opening both.1, rest]
      cases readTokens? steps marked <;> rfl

end Reading

/-- What the reading of a path behind a plain base comes down to. -/
theorem IngestRoute.endings_read :
    ∀ ending ∈ IngestRoute.endings,
      readTokens? (ending.1.length + 1) (withoutDoubledBraces ending.1) = some ending.2 := by
  decide +kernel

namespace IngestRoute

variable {route other : IngestRoute}

theorem IsPlain.braceless (plain : route.IsPlain) :
    ∀ c ∈ route.root, c ≠ '\x7b' ∧ c ≠ '\x7d' := by
  rw [root]
  split
  · exact fun _ member => absurd member List.not_mem_nil
  · intro c member
    rcases List.mem_cons.1 member with rfl | member
    · decide
    · exact plain.1 c member

theorem IsPlain.starts (plain : route.IsPlain) : ∀ segment ∈ pieces '/' route.root,
    segment.head? ≠ some ':' ∧ segment.head? ≠ some '*' := by
  have empty : ∀ segment ∈ [([] : List Char)],
      segment.head? ≠ some ':' ∧ segment.head? ≠ some '*' := by decide
  rw [root]
  split
  · exact empty
  · rw [pieces, if_pos rfl]
    intro segment member
    rcases List.mem_cons.1 member with rfl | member
    · exact empty _ (List.mem_singleton_self _)
    · exact plain.2 segment member

/-- The paths of a plain route are read as the patterns that they look like. -/
theorem readPath?_of_plain (plain : route.IsPlain) {ending : List Char × List PathToken}
    (member : ending ∈ endings) :
    readPath? (String.ofList (route.root ++ ending.1)) =
      some (route.root.map PathToken.char ++ ending.2) := by
  have tokens : readTokens? ((withoutDoubledBraces (route.root ++ ending.1)).length + 1)
      (withoutDoubledBraces (route.root ++ ending.1)) =
        some (route.root.map PathToken.char ++ ending.2) := by
    have lengths : ∀ ending ∈ endings,
        (withoutDoubledBraces ending.1).length = ending.1.length := by decide +kernel
    rw [withoutDoubledBraces_append plain.braceless, List.length_append, List.length_map,
      Nat.add_assoc, readTokens?_append plain.braceless, lengths ending member,
      endings_read ending member, Option.map_some]
  have segments : ((pieces '/' (route.root ++ ending.1)).any fun segment =>
      segment.head? = some ':' ∨ segment.head? = some '*') = false := by
    have tails : ∀ ending ∈ endings, ∃ tail, ending.1 = '/' :: tail ∧ ∀ segment ∈ pieces '/' tail,
        segment.head? ≠ some ':' ∧ segment.head? ≠ some '*' := by
      simp only [endings, List.forall_mem_cons]
      exact ⟨⟨_, rfl, by decide⟩, ⟨_, rfl, by decide⟩, ⟨_, rfl, by decide⟩,
        fun _ none => absurd none List.not_mem_nil⟩
    obtain ⟨tail, same, fine⟩ := tails ending member
    rw [same, pieces_append, List.any_eq_false]
    intro segment present
    rcases List.mem_append.1 present with inBase | behind
    · simpa using plain.starts segment inBase
    · simpa using fine segment behind
  have last : .rest ∉ (route.root.map PathToken.char ++ ending.2).dropLast := by
    have ends : ∀ ending ∈ endings, ending.2 ≠ [] ∧ .rest ∉ ending.2.dropLast := by decide
    rw [List.dropLast_append_of_ne_nil (ends ending member).1, List.mem_append, not_or]
    exact ⟨by simp, (ends ending member).2⟩
  have few : ¬ mostParts < (route.root.map PathToken.char ++ ending.2).count .part := by
    have one : ∀ ending ∈ endings, ending.2.count PathToken.part = 1 := by decide
    have base : (route.root.map PathToken.char).count .part = 0 := by simp [List.count_eq_zero]
    rw [List.count_append, base, one ending member]
    decide
  rw [readPath?]
  simp only [String.toList_ofList, tokens, Option.bind_eq_bind, Option.bind_some, segments,
    Bool.false_eq_true, if_false, if_neg last, if_neg few]

/-- All paths of a plain route are read as its patterns. -/
theorem mapM_readPath?_paths (plain : route.IsPlain) :
    route.paths.mapM readPath? = some route.tokens := by
  have written : route.paths = endings.map fun ending => String.ofList (route.root ++ ending.1) := by
    have texts := congrArg (List.map String.ofList) route.map_toList_paths
    simpa [Function.comp_def] using texts
  rw [written, tokens, List.mapM_map]
  exact mapM_eq_some_map fun ending member => readPath?_of_plain plain member

theorem mapM_readPath?_flatMap {routes : List IngestRoute} (plain : ∀ route ∈ routes, route.IsPlain) :
    (routes.flatMap paths).mapM readPath? = some (routes.flatMap tokens) := by
  induction routes with
  | nil => rfl
  | cons route others ih =>
      obtain ⟨first, rest⟩ := List.forall_mem_cons.1 plain
      rw [List.flatMap_cons, List.flatMap_cons, List.mapM_append, mapM_readPath?_paths first, ih rest]
      rfl

end IngestRoute

/-! ### Patterns side by side -/

theorem noneClash_iff {patterns : List (List PathToken)} :
    noneClash patterns = true ↔ patterns.Pairwise fun one other => clash one other = false := by
  induction patterns with
  | nil => simp [noneClash]
  | cons pattern others ih => simp [noneClash, ih, List.pairwise_cons]

theorem clash_append (base first second : List PathToken) :
    clash (base ++ first) (base ++ second) = clash first second := by
  induction base with
  | nil => rfl
  | cons token others ih => rw [List.cons_append, List.cons_append, clash, if_pos rfl, ih]

/-- A text and the slash behind it start with a character. -/
theorem exists_char_cons (text : List Char) (following : List PathToken) :
    ∃ c more, text.map PathToken.char ++ .char '/' :: following = .char c :: more := by
  cases text with
  | nil => exact ⟨_, _, rfl⟩
  | cons c rest => exact ⟨_, _, rfl⟩

/-- Where a channel follows the slash behind two texts, the patterns part within the texts or behind
the shorter one, and go on there with two characters, or with a channel and a character. -/
theorem clash_of_ne {first second : List Char} (different : first ≠ second)
    (following others : List PathToken) :
    clash (first.map PathToken.char ++ .char '/' :: .part :: following)
      (second.map PathToken.char ++ .char '/' :: .part :: others) = false := by
  induction first generalizing second with
  | nil =>
      cases second with
      | nil => exact absurd rfl different
      | cons d rest =>
          obtain ⟨c, more, shape⟩ := exists_char_cons rest (.part :: others)
          rw [List.map_nil, List.nil_append, List.map_cons, List.cons_append, shape, clash]
          split
          · simp [clash]
          · simp
  | cons c rest ih =>
      cases second with
      | nil =>
          -- A slash in the first text may be the one behind the second: then a channel meets a
          -- character.
          obtain ⟨d, more, shape⟩ := exists_char_cons rest (.part :: following)
          rw [List.map_nil, List.nil_append, List.map_cons, List.cons_append, shape, clash]
          split
          · simp [clash]
          · simp
      | cons d more =>
          rw [List.map_cons, List.map_cons, List.cons_append, List.cons_append, clash]
          split
          · next same =>
            cases same
            exact ih fun equal => different (congrArg _ equal)
          · simp

namespace IngestRoute

variable {route other : IngestRoute}

theorem pairwise_tokens (route : IngestRoute) :
    route.tokens.Pairwise fun one other => clash one other = false := by
  have alone : endings.Pairwise fun one other => clash one.2 other.2 = false := by decide
  rw [tokens, List.pairwise_map]
  exact alone.imp fun apart => by rwa [clash_append]

theorem clash_tokens (different : route.base ≠ other.base) :
    ∀ one ∈ route.tokens, ∀ two ∈ other.tokens, clash one two = false := by
  have shape : ∀ ending ∈ endings, ∃ following, ending.2 = .char '/' :: .part :: following := by
    simp [endings]
  rintro _ first _ second
  obtain ⟨ending, member, rfl⟩ := List.mem_map.1 first
  obtain ⟨last, also, rfl⟩ := List.mem_map.1 second
  obtain ⟨following, same⟩ := shape ending member
  obtain ⟨others, equal⟩ := shape last also
  rw [same, equal]
  exact clash_of_ne (fun roots => different (root_inj roots)) following others

end IngestRoute

/-- Routes with plain bases, no two of them the same, can be served by one listener. -/
theorem canServe_of_plain {routes : List IngestRoute} (plain : ∀ route ∈ routes, route.IsPlain)
    (distinct : (routes.map IngestRoute.base).Nodup) : canServe routes = true := by
  rw [canServe, IngestRoute.mapM_readPath?_flatMap plain]
  refine noneClash_iff.2 (List.pairwise_flatMap.2 ⟨fun route _ => route.pairwise_tokens, ?_⟩)
  exact (List.pairwise_map.1 distinct).imp IngestRoute.clash_tokens

end LiveRelay
