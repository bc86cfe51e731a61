/-
Module: LiveRelay.Ingest.Dispatch
Purpose: Which route of a listener serves a request path, and what the path captures there.
Main exports: PatternPart, IngestRoute.patterns, Capture, Router, search, dispatch, pathOfTarget
-/
import LiveRelay.Ingest.Route
import LiveRelay.Text.Percent

namespace LiveRelay

open Text

/-- One part of a path pattern: a segment as it is written, a segment that names the channel, or
everything that follows. -/
inductive PatternPart where
  | literal (segment : List Char)
  | channel
  | rest
deriving Repr, DecidableEq

/-- How a part of a pattern is written. -/
def PatternPart.text : PatternPart → List Char
  | literal segment => segment
  | channel => "\x7bchannel\x7d".toList
  | rest => "\x7b*rest\x7d".toList

/-- A path pattern, segment by segment behind the leading slash. -/
abbrev PathPattern := List PatternPart

/-- How a pattern is written. -/
def PathPattern.toText (pattern : PathPattern) : String :=
  String.ofList ('/' :: joinWith '/' (pattern.map PatternPart.text))

namespace IngestRoute

/-- The segments of the base, as parts of a pattern. They are taken as they are written, which is
what they mean where no brace is in them. -/
def baseParts (route : IngestRoute) : PathPattern :=
  if route.base = "" then [] else (pieces '/' route.base.toList).map .literal

/-- The three patterns of a route: the path ends with a slash behind the channel, with anything
behind that slash, or with the channel. -/
def patterns (route : IngestRoute) : List PathPattern :=
  [route.baseParts ++ [.channel, .literal []], route.baseParts ++ [.channel, .rest],
    route.baseParts ++ [.channel]]

/-- A pattern behind the base of a route is written behind the text of the base. -/
theorem toText_baseParts_append (route : IngestRoute) (last : PathPattern) (ends : last ≠ []) :
    PathPattern.toText (route.baseParts ++ last) =
      if route.base = "" then last.toText else "/" ++ route.base ++ last.toText := by
  by_cases plain : route.base = ""
  · simp [baseParts, plain]
  · have parts : route.baseParts.map PatternPart.text = pieces '/' route.base.toList := by
      rw [baseParts, if_neg plain, List.map_map]
      exact List.map_id _
    have written : last.map PatternPart.text ≠ [] := by simpa using ends
    rw [PathPattern.toText, List.map_append, parts,
      joinWith_append _ (pieces_ne_nil '/' route.base.toList) written, joinWith_pieces,
      if_neg plain]
    apply String.toList_inj.1
    rw [PathPattern.toText, String.toList_append, String.toList_append, String.toList_ofList,
      String.toList_ofList]
    simp

/-- The patterns of a route, as they are written, are its paths. -/
theorem map_toText_patterns (route : IngestRoute) :
    route.patterns.map PathPattern.toText = route.paths := by
  have closed : PathPattern.toText [.channel, .literal []] = "/\x7bchannel\x7d/" ∧
      PathPattern.toText [.channel, .rest] = "/\x7bchannel\x7d/\x7b*rest\x7d" ∧
      PathPattern.toText [.channel] = "/\x7bchannel\x7d" := by decide
  simp only [patterns, paths, path, List.map_cons, List.map_nil, toText_baseParts_append, ne_eq,
    List.cons_ne_nil, not_false_eq_true, closed.1, closed.2.1, closed.2.2]
  split
  · decide
  · simp [String.append_assoc]

end IngestRoute

/-- What a path captures: the channel, and what follows it where that is captured too. -/
structure Capture where
  channel : Option (List Char)
  rest : Option (List Char)
deriving Repr, DecidableEq

namespace Capture

def nothing : Capture := ⟨none, none⟩

/-- The texts of a capture. -/
def texts (capture : Capture) : List (List Char) := capture.channel.toList ++ capture.rest.toList

end Capture

section Search

variable {τ : Type}

/-- The candidates whose pattern goes on with a part, without that part. -/
def goingOn (part : PatternPart) (candidates : List (PathPattern × τ)) :
    List (PathPattern × τ) :=
  candidates.filterMap fun (pattern, target) =>
    match pattern with
    | [] => none
    | first :: others => if first = part then some (others, target) else none

/-- The first candidate whose pattern is used up. -/
def usedUp (candidates : List (PathPattern × τ)) : Option τ :=
  (candidates.find? fun candidate => candidate.1 = []).map Prod.snd

/-- Find the candidate that serves a path, segment by segment. A literal segment goes before a
channel and a channel before the rest; where one choice leads nowhere, the next is tried. A channel
that ends the path is not empty, and neither is the rest. -/
def search (candidates : List (PathPattern × τ)) : List (List Char) → Option (Capture × τ)
  | [] => (usedUp candidates).map fun target => (.nothing, target)
  | segment :: others =>
    if candidates.isEmpty then none
    else
      (search (goingOn (.literal segment) candidates) others).orElse fun _ =>
        let byChannel :=
          if others = [] ∧ segment = [] then none
          else
            (search (goingOn .channel candidates) others).map fun (capture, target) =>
              ({ capture with channel := some segment }, target)
        byChannel.orElse fun _ =>
          let rest := joinWith '/' (segment :: others)
          if rest = [] then none
          else (usedUp (goingOn .rest candidates)).map fun target => (⟨none, some rest⟩, target)

/-- A router finds what serves the segments of a path, among path patterns that each stand for
something, and what the path captures there. -/
abbrev Router (τ : Type) := List (PathPattern × τ) → List (List Char) → Option (Capture × τ)

/-- All patterns of routes, with what their routes stand for. -/
def candidates (routes : List (IngestRoute × τ)) : List (PathPattern × τ) :=
  routes.flatMap fun (route, target) => route.patterns.map fun pattern => (pattern, target)

/-- The segments of a path. Every path starts with a slash. -/
def segments? : List Char → Option (List (List Char))
  | '/' :: path => some (pieces '/' path)
  | _ => none

/-- Find the route that serves a path. -/
def dispatch (router : Router τ) (routes : List (IngestRoute × τ)) (path : List Char) :
    Option (Capture × τ) :=
  (segments? path).bind fun segments => router (candidates routes) segments

end Search

/-- Whether a character can stand in the scheme of a request target. -/
def isSchemeChar (c : Char) : Bool := c.isAlphanum ∨ c = '+' ∨ c = '-' ∨ c = '.'

/-- What a request target asks of the host: all of it where it starts with a slash or is a star, and
otherwise what follows a scheme and an authority, behind a slash. An authority without a scheme asks
for nothing. -/
def localTarget (target : List Char) : List Char :=
  match target with
  | '/' :: path => '/' :: path
  | ['*'] => ['*']
  | _ =>
    match target.dropWhile isSchemeChar with
    | ':' :: '/' :: '/' :: address =>
      match address.dropWhile fun c => c ≠ '/' ∧ c ≠ '?' ∧ c ≠ '#' with
      | '/' :: path => '/' :: path
      | rest => '/' :: rest
    | _ => []

/-- The path of a request target: what stands before the query and any fragment. -/
def pathOfTarget (target : String) : List Char :=
  (localTarget target.toList).takeWhile fun c => c ≠ '?' ∧ c ≠ '#'

/-- The query of a request target, if it has one. -/
def queryOfTarget (target : String) : Option String :=
  (cutFirst '?' (target.toList.takeWhile (· ≠ '#'))).map fun parts => String.ofList parts.2

example : pathOfTarget "/a%2f?b" = "/a%2f".toList ∧ pathOfTarget "http://h:80/a?b" = "/a".toList ∧
    pathOfTarget "http://h?b" = ['/'] ∧ pathOfTarget "h:80" = [] := by decide +kernel

-- A base that extends another one goes before it, and after it where its own channel would be empty.
example :
    let routes := [(IngestRoute.mk default "", 0), (IngestRoute.mk default "encoder", 1)]
    (dispatch search routes "/encoder/01".toList).map Prod.snd = some 1 ∧
      (dispatch search routes "/encoder/".toList).map Prod.snd = some 0 := by decide +kernel

end LiveRelay
