/-
Module: LiveRelay.Proofs.Ingest.Fits
Purpose: Which paths fit a route, and that a router as it is expected to be finds the route with the
  longest base among those that a path fits.
Main exports: IngestRoute.Fits, IngestRoute.fits_iff, dispatch_of_longest, dispatch_of_unfit
-/
import LiveRelay.Proofs.Ingest.Routing

namespace LiveRelay

open Text

namespace IngestRoute

/-- What stands in front of the last slash before the channel: the base behind a slash, or nothing
where the base is empty. -/
def root (route : IngestRoute) : List Char :=
  if route.base = "" then [] else '/' :: route.base.toList

/-- A path fits a route and names a channel there: one segment that is not empty stands behind the
base, and nothing or a slash and anything follows it. -/
def Fits (route : IngestRoute) (path channel : List Char) : Prop :=
  channel ≠ [] ∧ '/' ∉ channel ∧
    (path = route.root ++ '/' :: channel ∨
      ∃ more, path = route.root ++ '/' :: (channel ++ '/' :: more))

/-- The segments of the base. -/
def segments (route : IngestRoute) : List (List Char) :=
  if route.base = "" then [] else pieces '/' route.base.toList

variable {route other : IngestRoute} {path channel : List Char} {more : List (List Char)}
  {pattern : PathPattern} {capture : Capture}

theorem baseParts_eq (route : IngestRoute) :
    route.baseParts = route.segments.map PatternPart.literal := by
  rw [baseParts, segments]
  split <;> rfl

theorem segments?_root_append (route : IngestRoute) (tail : List Char) :
    segments? (route.root ++ '/' :: tail) = some (route.segments ++ pieces '/' tail) := by
  rw [root, segments]
  split
  · rfl
  · rw [List.cons_append, segments?, pieces_append]

theorem root_append_join (route : IngestRoute) {tail : List (List Char)} (some : tail ≠ []) :
    '/' :: joinWith '/' (route.segments ++ tail) = route.root ++ '/' :: joinWith '/' tail := by
  rw [root, segments]
  split
  · rfl
  · rw [joinWith_append _ (pieces_ne_nil _ _) some, joinWith_pieces, List.cons_append]

/-- A path fits a route exactly if its segments are those of the base, one that is not empty, and
any others. -/
theorem fits_iff :
    route.Fits path channel ↔
      channel ≠ [] ∧ ∃ more, segments? path = some (route.segments ++ channel :: more) := by
  constructor
  · rintro ⟨nonempty, alone, rfl | ⟨more, rfl⟩⟩
    · refine ⟨nonempty, [], ?_⟩
      rw [segments?_root_append, pieces_of_not_mem alone]
    · refine ⟨nonempty, pieces '/' more, ?_⟩
      rw [segments?_root_append, pieces_append, pieces_of_not_mem alone, List.singleton_append]
  · rintro ⟨nonempty, more, cut⟩
    obtain ⟨text, rfl, parts⟩ : ∃ text, path = '/' :: text ∧
        pieces '/' text = route.segments ++ channel :: more := by
      unfold segments? at cut
      split at cut
      · exact ⟨_, rfl, Option.some.inj cut⟩
      · cases cut
    have piece : channel ∈ pieces '/' text := by simp [parts]
    have alone : '/' ∉ channel := not_mem_of_mem_pieces piece
    have whole : '/' :: text = route.root ++ '/' :: joinWith '/' (channel :: more) := by
      rw [← route.root_append_join (List.cons_ne_nil _ _), ← parts, joinWith_pieces]
    refine ⟨nonempty, alone, ?_⟩
    cases more with
    | nil => exact .inl whole
    | cons first others => exact .inr ⟨_, whole⟩

/-! ### The patterns of a route -/

/-- Segments as they are written match themselves and nothing else. -/
theorem matches_literals {written segments : List (List Char)} :
    PathPattern.Matches (written.map PatternPart.literal ++ pattern) segments capture ↔
      ∃ tail, segments = written ++ tail ∧ pattern.Matches tail capture := by
  induction written generalizing segments with
  | nil => simp
  | cons first others ih =>
      constructor
      · intro matched
        cases matched with
        | literal later =>
            obtain ⟨tail, rfl, behind⟩ := ih.1 later
            exact ⟨tail, rfl, behind⟩
      · rintro ⟨tail, rfl, matched⟩
        exact .literal (ih.2 ⟨tail, rfl, matched⟩)

theorem mem_patterns :
    pattern ∈ route.patterns ↔
      ∃ last ∈ [[.literal []], [.rest], []],
        pattern = route.segments.map PatternPart.literal ++ .channel :: last := by
  simp [patterns, baseParts_eq]

/-- Where a pattern of a route matches, a segment that is not empty stands behind the base, and it is
captured as the channel. -/
theorem channel_of_matches {segments : List (List Char)} (own : pattern ∈ route.patterns)
    (matched : pattern.Matches segments capture) :
    ∃ channel more, segments = route.segments ++ channel :: more ∧ channel ≠ [] ∧
      capture.channel = some channel := by
  obtain ⟨last, _, rfl⟩ := mem_patterns.1 own
  obtain ⟨tail, rfl, behind⟩ := matches_literals.1 matched
  cases behind with
  | channel nonempty _ => exact ⟨_, _, rfl, nonempty, rfl⟩

/-- Some pattern of a route matches wherever a segment that is not empty stands behind the base. -/
theorem exists_matches (nonempty : channel ≠ []) (more : List (List Char)) :
    ∃ pattern ∈ route.patterns, ∃ capture,
      pattern.Matches (route.segments ++ channel :: more) capture := by
  obtain ⟨last, member, capture, matched⟩ : ∃ last ∈ [[.literal []], [.rest], []],
      ∃ capture, PathPattern.Matches last more capture := by
    by_cases nothing : joinWith '/' more = []
    · rcases joinWith_eq_nil_iff.1 nothing with rfl | rfl
      · exact ⟨[], by simp, _, .done⟩
      · exact ⟨[.literal []], by simp, _, .literal .done⟩
    · exact ⟨[.rest], by simp, _, .rest nothing⟩
  exact ⟨_, mem_patterns.2 ⟨last, member, rfl⟩, _,
    matches_literals.2 ⟨_, rfl, .channel nonempty matched⟩⟩

theorem count_channel_patterns (own : pattern ∈ route.patterns) : pattern.count .channel ≤ 1 := by
  obtain ⟨last, member, rfl⟩ := mem_patterns.1 own
  have base : (route.segments.map PatternPart.literal).count .channel = 0 := by
    simp [List.count_eq_zero]
  have none : ∀ last ∈ [[PatternPart.literal []], [.rest], []], last.count .channel = 0 := by decide
  apply Nat.le_of_eq
  rw [List.count_append, base, Nat.zero_add, List.count_cons_self, none last member]

/-! ### Two routes that one path fits -/

theorem base_of_segments (same : other.segments = route.segments) : other.base = route.base := by
  have written (route : IngestRoute) : route.segments = [] ↔ route.base = "" := by
    rw [segments]
    split
    · next plain => simp [plain]
    · next named => simp [named, pieces_ne_nil]
  by_cases plain : route.base = ""
  · rw [plain, ← written other, same, written, plain]
  · have named : other.base ≠ "" := fun none => plain (by
      rw [← written, ← same, written, none])
    rw [segments, segments, if_neg plain, if_neg named] at same
    apply String.toList_inj.1
    rw [← joinWith_pieces '/' other.base.toList, same, joinWith_pieces]

/-- A base with more segments behind those of another is longer. -/
theorem length_base_lt {segment : List Char}
    (longer : other.segments = route.segments ++ segment :: more) :
    route.base.length < other.base.length := by
  have named : other.base ≠ "" := by
    intro plain
    rw [segments, if_pos plain] at longer
    simp at longer
  have whole : '/' :: other.base.toList =
      route.root ++ '/' :: joinWith '/' (segment :: more) := by
    rw [← route.root_append_join (List.cons_ne_nil _ _), ← longer, segments, if_neg named,
      joinWith_pieces]
  have lengths := congrArg List.length whole
  rw [List.length_append, List.length_cons, List.length_cons, String.length_toList] at lengths
  by_cases plain : route.base = ""
  · have nonempty : other.base.length ≠ 0 := by simpa using named
    rw [plain]
    exact Nat.pos_of_ne_zero nonempty
  · rw [root, if_neg plain, List.length_cons, String.length_toList] at lengths
    omega

/-- The patterns of a longer base go before those of a shorter one. -/
theorem precedes_of_longer {segment : List Char}
    (longer : other.segments = route.segments ++ segment :: more) {first second : PathPattern}
    (own : first ∈ other.patterns) (shorter : second ∈ route.patterns) :
    first.Precedes second := by
  obtain ⟨_, _, rfl⟩ := mem_patterns.1 own
  obtain ⟨_, _, rfl⟩ := mem_patterns.1 shorter
  rw [longer, List.map_append, List.append_assoc]
  exact .append _ .literal_channel

/-- Of two routes that one path fits, one base goes on behind the other, or they are the same. -/
theorem compare {name : List Char} {following : List (List Char)}
    (same : route.segments ++ channel :: more = other.segments ++ name :: following) :
    (other.base = route.base ∧ name = channel) ∨
    (∃ segment rest, other.segments = route.segments ++ segment :: rest) ∨
    (∃ segment rest, route.segments = other.segments ++ segment :: rest) := by
  rcases List.append_eq_append_iff.1 same with ⟨gap, behind, tail⟩ | ⟨gap, behind, tail⟩
  · cases gap with
    | nil =>
        rw [List.append_nil] at behind
        rw [List.nil_append, List.cons.injEq] at tail
        exact .inl ⟨base_of_segments behind, tail.1.symm⟩
    | cons segment rest => exact .inr (.inl ⟨segment, rest, behind⟩)
  · cases gap with
    | nil =>
        rw [List.append_nil] at behind
        rw [List.nil_append, List.cons.injEq] at tail
        exact .inl ⟨(base_of_segments behind).symm, tail.1⟩
    | cons segment rest => exact .inr (.inr ⟨segment, rest, behind⟩)

end IngestRoute

section Dispatch

variable {τ : Type} {router : Router τ} {routes : List (IngestRoute × τ)} {route : IngestRoute}
  {target : τ} {path channel : List Char}

theorem mem_candidates {pattern : PathPattern} :
    (pattern, target) ∈ candidates routes ↔
      ∃ route, (route, target) ∈ routes ∧ pattern ∈ route.patterns := by
  simp only [candidates, List.mem_flatMap, List.mem_map, Prod.exists, Prod.mk.injEq]
  constructor
  · rintro ⟨route, _, member, _, own, rfl, rfl⟩
    exact ⟨route, member, own⟩
  · rintro ⟨route, member, own⟩
    exact ⟨route, target, member, pattern, own, rfl, rfl⟩

/-- The search is as expected of a router on the patterns of routes wherever it takes no empty text
for a channel. -/
theorem search_follows_candidates {segments : List (List Char)}
    (nonempty : ∀ capture target, search (candidates routes) segments = some (capture, target) →
      [] ∉ capture.texts) : Router.Follows search (candidates routes) segments := by
  refine search_follows ?_ nonempty
  rintro ⟨pattern, target⟩ member
  obtain ⟨route, _, own⟩ := mem_candidates.1 member
  exact IngestRoute.count_channel_patterns own

/-- A path that fits routes is served by one of those with the longest base, and the segment behind
the base is captured as the channel. -/
theorem dispatch_of_longest
    (follows : ∀ segments, segments? path = some segments →
      router.Follows (candidates routes) segments)
    (member : (route, target) ∈ routes) (fits : route.Fits path channel)
    (longest : ∀ other ∈ routes, ∀ name, other.1.Fits path name →
      other.1.base.length ≤ route.base.length) :
    ∃ capture found winner, dispatch router routes path = some (capture, found) ∧
      (winner, found) ∈ routes ∧ winner.base = route.base ∧ capture.channel = some channel := by
  obtain ⟨nonempty, more, cut⟩ := IngestRoute.fits_iff.1 fits
  obtain ⟨pattern, own, taken, matched⟩ := route.exists_matches nonempty more
  have entered := mem_candidates.2 ⟨route, member, own⟩
  have rule := follows _ cut
  cases result : router (candidates routes) (route.segments ++ channel :: more) with
  | none => exact absurd matched (rule.complete result _ entered taken)
  | some answer =>
  obtain ⟨capture, found⟩ := answer
  obtain ⟨best, listed, served, first⟩ := rule.best capture found result
  obtain ⟨winner, present, shape⟩ := mem_candidates.1 listed
  obtain ⟨name, following, same, named, captured⟩ := IngestRoute.channel_of_matches shape served
  refine ⟨capture, found, winner, by rw [dispatch, cut, Option.bind_some, result], present, ?_⟩
  -- What is found has no longer base, since it fits, and no shorter one, since that goes behind.
  rcases IngestRoute.compare same with ⟨base, rfl⟩ | ⟨segment, rest, longer⟩ | ⟨segment, rest, shorter⟩
  · exact ⟨base, captured⟩
  · have fitted : winner.Fits path name := IngestRoute.fits_iff.2 ⟨named, following, same ▸ cut⟩
    exact absurd (IngestRoute.length_base_lt longer) (Nat.not_lt.2 (longest _ present name fitted))
  · exact absurd (IngestRoute.precedes_of_longer shorter own shape) (first _ entered taken matched)

/-- A path that fits no route is served by none. -/
theorem dispatch_of_unfit
    (follows : ∀ segments, segments? path = some segments →
      router.Follows (candidates routes) segments)
    (unfit : ∀ route ∈ routes, ∀ channel, ¬ route.1.Fits path channel) :
    dispatch router routes path = none := by
  rw [dispatch]
  cases cut : segments? path with
  | none => rfl
  | some segments =>
  rw [Option.bind_some]
  cases result : router (candidates routes) segments with
  | none => rfl
  | some answer =>
  obtain ⟨pattern, listed, served, _⟩ := (follows _ cut).best _ _ result
  obtain ⟨route, present, shape⟩ := mem_candidates.1 listed
  obtain ⟨name, following, rfl, named, _⟩ := IngestRoute.channel_of_matches shape served
  exact absurd (IngestRoute.fits_iff.2 ⟨named, following, cut⟩) (unfit _ present name)

end Dispatch

end LiveRelay
