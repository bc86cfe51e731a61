/-
Module: LiveRelay.Proofs.Queries
Purpose: Queries written from parts and read again: which channel a query asks for, and for which
  channels there is a query at all.
Main exports: Query.Part, Query.build, Query.FirstNamed, channelOfQuery_build, askable_iff
-/
import LiveRelay.Query
import LiveRelay.Proofs.Text.Trimmed
import Mathlib.Data.List.Basic

namespace LiveRelay

open Text

namespace Query

/-- One part of a query: a word, or a name with a value. Only a value may contain `=`. -/
inductive Part where
  | word (letters : List Char) (plain : '=' ∉ letters ∧ '&' ∉ letters)
  | pair (name value : List Char) (plain : '=' ∉ name ∧ '&' ∉ name) (whole : '&' ∉ value)

namespace Part

/-- The part as it is written. -/
def text : Part → List Char
  | word letters _ => letters
  | pair name value _ _ => name ++ '=' :: value

/-- The name and the value of a part, if it has them. -/
def pair? : Part → Option (List Char × List Char)
  | word _ _ => none
  | pair name value _ _ => some (name, value)

/-- The name of a part that has a value. -/
def name? (part : Part) : Option (List Char) := part.pair?.map Prod.fst

theorem cutFirst_text (part : Part) : cutFirst '=' part.text = part.pair? := by
  cases part with
  | word letters plain => exact cutFirst_eq_none_iff.2 plain.1
  | pair name value plain whole => exact cutFirst_eq_some_iff.2 ⟨rfl, plain.1⟩

theorem not_mem_text (part : Part) : '&' ∉ part.text := by
  cases part with
  | word letters plain => exact plain.2
  | pair name value plain whole => simp [text, plain.2, whole]

theorem equals_mem_text {part : Part} (isPair : part.pair? ≠ none) : '=' ∈ part.text := by
  cases part with
  | word letters plain => exact absurd rfl isPair
  | pair name value plain whole => simp [text]

end Part

/-- Parts as one query. -/
def build (parts : List Part) : List Char := joinWith '&' (parts.map Part.text)

/-- The first pair of a name among the parts has this value. -/
def FirstNamed (name : List Char) (parts : List Part) (value : List Char) : Prop :=
  ∃ earlier part later, parts = earlier ++ part :: later ∧ part.pair? = some (name, value) ∧
    ∀ other ∈ earlier, other.name? ≠ some name

variable {parts : List Part} {query : List Char}

/-! ### Reading what was written -/

/-- Pieces without the separator are found again between the separators. -/
theorem pieces_joinWith {separator : Char} {texts : List (List Char)} (some_text : texts ≠ [])
    (apart : ∀ text ∈ texts, separator ∉ text) :
    pieces separator (joinWith separator texts) = texts := by
  induction texts with
  | nil => exact absurd rfl some_text
  | cons first others ih =>
    obtain ⟨own, rest⟩ := List.forall_mem_cons.1 apart
    cases others with
    | nil => exact pieces_of_not_mem own
    | cons second others =>
      rw [joinWith, pieces_append, pieces_of_not_mem own, ih (by simp) rest]
      · rfl
      · simp

/-- The pairs of a written query are those of its parts. -/
theorem pairs_build (some_part : parts ≠ []) :
    pairs (build parts) = parts.filterMap Part.pair? := by
  have apart : ∀ text ∈ parts.map Part.text, '&' ∉ text := by
    intro text member
    obtain ⟨part, _, rfl⟩ := List.mem_map.1 member
    exact part.not_mem_text
  rw [pairs, build, pieces_joinWith (by simpa using some_part) apart, List.filterMap_map]
  exact congrArg (parts.filterMap ·) (funext Part.cutFirst_text)

/-- A character of a part is a character of the query. -/
theorem mem_build {part : Part} {c : Char} (member : part ∈ parts) (inside : c ∈ part.text) :
    c ∈ build parts := by
  induction parts with
  | nil => cases member
  | cons first others ih =>
    rw [build, List.map_cons]
    cases others with
    | nil =>
      rw [List.mem_singleton.1 member] at inside
      exact inside
    | cons second others =>
      rw [List.map_cons, joinWith, List.mem_append]
      · rcases List.mem_cons.1 member with rfl | member
        · exact .inl inside
        · exact .inr (List.mem_cons_of_mem _ (ih member))
      · simp

/-- A value is found under a name exactly if the first pair of that name has it. -/
theorem find?_eq_some_iff {name value : List Char} :
    (parts.filterMap Part.pair?).find? (fun pair => pair.1 = name) = some (name, value) ↔
      FirstNamed name parts value := by
  rw [List.find?_filterMap, Option.bind_eq_some_iff]
  constructor
  · rintro ⟨part, found, isPair⟩
    obtain ⟨_, earlier, later, whole, passed⟩ := List.find?_eq_some_iff_append.1 found
    refine ⟨earlier, part, later, whole, isPair, fun other member same => ?_⟩
    obtain ⟨pair, isPair', rfl⟩ := Option.map_eq_some_iff.1 same
    simpa [isPair'] using passed other member
  · rintro ⟨earlier, part, later, whole, isPair, passed⟩
    refine ⟨part, List.find?_eq_some_iff_append.2 ⟨by simp [isPair], earlier, later, whole, ?_⟩,
      isPair⟩
    intro other member
    cases isPair' : other.pair? with
    | none => rfl
    | some pair =>
      have different : pair.1 ≠ name := by
        rintro rfl
        exact passed other member (by rw [Part.name?, isPair', Option.map_some])
      simp [different]

/-- Nothing is found under a name exactly if no part is a pair of that name. -/
theorem find?_eq_none_iff {name : List Char} :
    (parts.filterMap Part.pair?).find? (fun pair => pair.1 = name) = none ↔
      ∀ part ∈ parts, part.name? ≠ some name := by
  simp only [List.find?_eq_none, List.mem_filterMap]
  constructor
  · intro absent part member same
    obtain ⟨pair, isPair, named⟩ := Option.map_eq_some_iff.1 same
    exact absent pair ⟨part, member, isPair⟩ (decide_eq_true named)
  · rintro absent pair ⟨part, member, isPair⟩ same
    refine absent part member ?_
    rw [Part.name?, isPair, Option.map_some, of_decide_eq_true same]

/-! ### The channel that a query asks for -/

variable {core channel : List Char}

/-- A query without `=` is the channel itself. -/
theorem channel?_of_plain (bare : Bare isBlank core) (wraps : Wraps isBlank query core)
    (plain : '=' ∉ core) : channel? query = if core = [] then none else some core := by
  have trimmed : trimBlank query = core := trimWhere_eq_iff.2 ⟨bare, wraps⟩
  rw [channel?, trimmed]
  exact if_congr Iff.rfl rfl (if_pos plain)

/-- In a query with `=` the first pair named `channel` decides. -/
theorem channel?_of_pairs (bare : Bare isBlank core) (wraps : Wraps isBlank query core)
    (equals : '=' ∈ core) :
    channel? query = ((pairs core).find? fun pair => pair.1 = "channel".toList).bind fun pair =>
      if pair.2 = [] then none else some pair.2 := by
  have trimmed : trimBlank query = core := trimWhere_eq_iff.2 ⟨bare, wraps⟩
  have filled : core ≠ [] := List.ne_nil_of_mem equals
  rw [channel?, trimmed]
  refine (if_neg filled).trans ((if_neg (not_not_intro equals)).trans ?_)
  generalize (pairs core).find? _ = first
  rcases first with _ | ⟨name, _ | ⟨c, rest⟩⟩ <;> rfl

/-- Every query has a trimmed form. -/
theorem exists_trimmed (query : List Char) : ∃ core, Bare isBlank core ∧ Wraps isBlank query core :=
  ⟨_, bare_trimWhere isBlank query, wraps_trimWhere isBlank query⟩

/-- What is found under a name has that name. -/
theorem name_of_find? {found : List (List Char × List Char)} {pair : List Char × List Char}
    (first : (found.find? fun pair => pair.1 = "channel".toList) = some pair) :
    pair = ("channel".toList, pair.2) := by
  have same := List.find?_some first
  exact Prod.ext (of_decide_eq_true same) rfl

/-- A query written from parts asks for the value of the first pair named `channel`, unless that
value is empty. -/
theorem channel?_build_eq_some_iff (has_pair : ∃ part ∈ parts, part.pair? ≠ none)
    (bare : Bare isBlank (build parts)) (wraps : Wraps isBlank query (build parts)) :
    channel? query = some channel ↔ channel ≠ [] ∧ FirstNamed "channel".toList parts channel := by
  obtain ⟨part, member, isPair⟩ := has_pair
  have equals : '=' ∈ build parts := mem_build member (Part.equals_mem_text isPair)
  rw [channel?_of_pairs bare wraps equals, pairs_build (List.ne_nil_of_mem member),
    Option.bind_eq_some_iff, ← find?_eq_some_iff]
  constructor
  · rintro ⟨pair, first, kept⟩
    rw [name_of_find? first] at first
    split at kept
    · cases kept
    · next filled =>
      cases kept
      exact ⟨filled, first⟩
  · rintro ⟨filled, first⟩
    exact ⟨_, first, if_neg filled⟩

theorem channel?_build_eq_none_iff (has_pair : ∃ part ∈ parts, part.pair? ≠ none)
    (bare : Bare isBlank (build parts)) (wraps : Wraps isBlank query (build parts)) :
    channel? query = none ↔ FirstNamed "channel".toList parts [] ∨
      ∀ part ∈ parts, part.name? ≠ some "channel".toList := by
  obtain ⟨part, member, isPair⟩ := has_pair
  have equals : '=' ∈ build parts := mem_build member (Part.equals_mem_text isPair)
  rw [channel?_of_pairs bare wraps equals, pairs_build (List.ne_nil_of_mem member),
    Option.bind_eq_none_iff, ← find?_eq_some_iff, ← find?_eq_none_iff]
  constructor
  · intro dropped
    cases first : (parts.filterMap Part.pair?).find? fun pair => pair.1 = "channel".toList with
    | none => exact .inr rfl
    | some pair =>
      have emptied := dropped pair first
      split at emptied
      · next empty =>
        rw [name_of_find? first, empty]
        exact .inl rfl
      · cases emptied
  · rintro (first | absent) pair found
    · rw [first] at found
      cases found
      rfl
    · rw [absent] at found
      cases found

end Query

open Query

variable {text : String} {channel : Channel}

theorem channelOfQuery_eq_some_iff :
    channelOfQuery (some text) = some channel ↔ channel? text.toList = some channel.toList := by
  rw [channelOfQuery, Option.bind_some, Option.map_eq_some_iff]
  constructor
  · rintro ⟨letters, asked, rfl⟩
    rw [asked, String.toList_ofList]
  · intro asked
    exact ⟨_, asked, String.ofList_toList⟩

theorem channelOfQuery_eq_none_iff :
    channelOfQuery (some text) = none ↔ channel? text.toList = none := by
  rw [channelOfQuery, Option.bind_some, Option.map_eq_none_iff]

/-- Reading a query undoes writing it. However a query with a pair is put together from parts, and
whatever blanks stand around it, it asks for the value of the first pair named `channel`; it asks
for none if that value is empty, whatever pairs follow, or if no pair has that name. A query without
`=` is the channel itself, without the blanks around it, and asks for none if nothing else is in
it. -/
theorem channelOfQuery_build :
    (∀ (parts : List Part) (text : String), (∃ part ∈ parts, part.pair? ≠ none) →
      Bare isBlank (build parts) → Wraps isBlank text.toList (build parts) →
        (∀ channel, channelOfQuery (some text) = some channel ↔
          channel ≠ "" ∧ FirstNamed "channel".toList parts channel.toList) ∧
        (channelOfQuery (some text) = none ↔ FirstNamed "channel".toList parts [] ∨
          ∀ part ∈ parts, part.name? ≠ some "channel".toList)) ∧
    ∀ text : String, '=' ∉ text.toList →
      ∃ core, Bare isBlank core ∧ Wraps isBlank text.toList core ∧
        channelOfQuery (some text) = if core = [] then none else some (String.ofList core) := by
  refine ⟨fun parts text has_pair bare wraps => ⟨fun channel => ?_, ?_⟩, fun text plain => ?_⟩
  · rw [channelOfQuery_eq_some_iff, channel?_build_eq_some_iff has_pair bare wraps, ne_eq,
      String.toList_eq_nil_iff]
  · rw [channelOfQuery_eq_none_iff, channel?_build_eq_none_iff has_pair bare wraps]
  · obtain ⟨core, bare, wraps⟩ := exists_trimmed text.toList
    refine ⟨core, bare, wraps, ?_⟩
    have inner : '=' ∉ core := by
      obtain ⟨before, after, whole, _, _⟩ := wraps
      intro member
      exact plain (whole ▸ List.mem_append_left _ (List.mem_append_right _ member))
    rw [channelOfQuery, Option.bind_some, channel?_of_plain bare wraps inner]
    split <;> rfl

/-- A name that only ends in `channel`, a value with `=` and a blank in it, a first pair without a
value, and blanks on the outside. -/
theorem channelOfQuery_build_of_crowdedQueries :
    channelOfQuery (some "\u3000a&subchannel=1&channel=b =c&channel=d\n") = some "b =c" ∧
      channelOfQuery (some "channel=&channel=d ") = none ∧
      channelOfQuery (some " 05&x\t") = some "05&x" := by
  refine ⟨?_, ?_, ?_⟩
  · have read := channelOfQuery_build.1
      [.word "a".toList (by decide), .pair "subchannel".toList "1".toList (by decide) (by decide),
        .pair "channel".toList "b =c".toList (by decide) (by decide),
        .pair "channel".toList "d".toList (by decide) (by decide)]
      "\u3000a&subchannel=1&channel=b =c&channel=d\n" ⟨_, .tail _ (.head _), by decide⟩ (by decide)
      ⟨"\u3000".toList, "\n".toList, by decide, List.all_eq_true.1 (by decide),
        List.all_eq_true.1 (by decide)⟩
    exact (read.1 "b =c").2 ⟨by decide, [_, _], _, _, rfl, rfl, by decide⟩
  · have read := channelOfQuery_build.1
      [.pair "channel".toList [] (by decide) (by decide),
        .pair "channel".toList "d".toList (by decide) (by decide)]
      "channel=&channel=d " ⟨_, .head _, by decide⟩ (by decide)
      ⟨[], " ".toList, by decide, nofun, List.all_eq_true.1 (by decide)⟩
    exact read.2.2 (.inl ⟨[], _, _, rfl, rfl, by decide⟩)
  · obtain ⟨core, bare, wraps, asked⟩ := channelOfQuery_build.2 " 05&x\t" (by decide)
    have trimmed : trimWhere isBlank " 05&x\t".toList = core := trimWhere_eq_iff.2 ⟨bare, wraps⟩
    rw [asked, ← trimmed]
    decide

/-! ### The channels that can be asked for -/

/-- The value of a pair ends before the next separator. -/
theorem Query.not_mem_of_mem_pairs {query : List Char} {pair : List Char × List Char}
    (member : pair ∈ pairs query) : '&' ∉ pair.2 := by
  obtain ⟨piece, among, cut⟩ := List.mem_filterMap.1 member
  obtain ⟨rfl, _⟩ := cutFirst_eq_some_iff.1 cut
  have whole := not_mem_of_mem_pieces among
  exact fun inside => whole (List.mem_append_right _ (List.mem_cons_of_mem _ inside))

/-- A channel that some query asks for is not empty, and it is the value of a pair or stands
alone. -/
theorem Query.of_channel?_eq_some {query channel : List Char}
    (asked : channel? query = some channel) :
    channel ≠ [] ∧ ('&' ∉ channel ∨ '=' ∉ channel ∧ Bare isBlank channel) := by
  obtain ⟨core, bare, wraps⟩ := exists_trimmed query
  by_cases equals : '=' ∈ core
  · rw [channel?_of_pairs bare wraps equals] at asked
    obtain ⟨pair, first, kept⟩ := Option.bind_eq_some_iff.1 asked
    split at kept
    · cases kept
    · next filled =>
      cases kept
      exact ⟨filled, .inl (not_mem_of_mem_pairs (List.mem_of_find?_eq_some first))⟩
  · rw [channel?_of_plain bare wraps equals] at asked
    split at asked
    · cases asked
    · next filled =>
      cases asked
      exact ⟨filled, .inr ⟨equals, bare⟩⟩

/-- A channel without `&` is asked for by name. The word behind it keeps its blanks from the end of
the query. -/
theorem Query.exists_named {channel : List Char} (filled : channel ≠ []) (whole : '&' ∉ channel) :
    ∃ query, channel? query = some channel := by
  let parts : List Part :=
    [.pair "channel".toList channel (by decide) whole, .word "x".toList (by decide)]
  have written : build parts = "channel=".toList ++ channel ++ "&x".toList := by
    simp [parts, build, joinWith, Part.text]
  have first : (build parts).head? = some 'c' := by rw [written]; rfl
  have last : (build parts).getLast? = some 'x' := by rw [written, List.getLast?_append]; rfl
  have bare : Bare isBlank (build parts) := by
    constructor
    · rw [first]
      rintro _ ⟨⟩
      decide
    · rw [last]
      rintro _ ⟨⟩
      decide
  have pair : ∃ part ∈ parts, part.pair? ≠ none := ⟨_, .head _, Option.some_ne_none _⟩
  exact ⟨build parts, (channel?_build_eq_some_iff pair bare (.refl _)).2
    ⟨filled, [], _, _, rfl, rfl, List.forall_mem_nil _⟩⟩

/-- A channel can be asked for exactly if it is not empty and either has no `&` or can stand alone,
which takes that it has no `=` and no blank at either end. No query asks for the empty channel. -/
theorem askable_iff (channel : Channel) :
    ((∃ query, channelOfQuery query = some channel) ↔
      channel ≠ "" ∧
        ('&' ∉ channel.toList ∨ '=' ∉ channel.toList ∧ Bare isBlank channel.toList)) ∧
    ∀ query, channelOfQuery query ≠ some "" := by
  have exists_iff : (∃ query, channelOfQuery query = some channel) ↔
      ∃ letters, channel? letters = some channel.toList := by
    constructor
    · rintro ⟨_ | text, asked⟩
      · cases asked
      · exact ⟨_, channelOfQuery_eq_some_iff.1 asked⟩
    · rintro ⟨letters, asked⟩
      refine ⟨some (String.ofList letters), channelOfQuery_eq_some_iff.2 ?_⟩
      rwa [String.toList_ofList]
  refine ⟨exists_iff.trans ⟨?_, ?_⟩, ?_⟩
  · rintro ⟨letters, asked⟩
    rw [ne_eq, ← String.toList_eq_nil_iff]
    exact of_channel?_eq_some asked
  · rintro ⟨filled, whole | ⟨plain, bare⟩⟩
    · exact exists_named (mt String.toList_eq_nil_iff.1 filled) whole
    · refine ⟨channel.toList, (channel?_of_plain bare (.refl _) plain).trans (if_neg ?_)⟩
      exact mt String.toList_eq_nil_iff.1 filled
  · rintro (_ | text) asked
    · cases asked
    · exact (of_channel?_eq_some (channelOfQuery_eq_some_iff.1 asked)).1 rfl

end LiveRelay
