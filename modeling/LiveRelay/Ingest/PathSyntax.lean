/-
Module: LiveRelay.Ingest.PathSyntax
Purpose: Which path patterns a listener can serve: how a written pattern is read, and which patterns
  cannot stand side by side.
Main exports: PathToken, readPath?, Clashing, canServe
-/
import LiveRelay.Ingest.Route

namespace LiveRelay

open Text

/-- One token of a written pattern: a character as it stands, a named part of one segment, or a
named rest of the path. -/
inductive PathToken where
  | char (c : Char)
  | part
  | rest
deriving Repr, DecidableEq

/-- The characters of a written pattern, each with the mark whether it is a brace that was written
twice to stand for itself. -/
def withoutDoubledBraces : List Char → List (Char × Bool)
  | '\x7b' :: '\x7b' :: others => ('\x7b', true) :: withoutDoubledBraces others
  | '\x7d' :: '\x7d' :: others => ('\x7d', true) :: withoutDoubledBraces others
  | c :: others => (c, false) :: withoutDoubledBraces others
  | [] => []

/-- What follows the closing brace of a name, which holds neither a star nor a slash. -/
def afterName : List (Char × Bool) → Option (List (Char × Bool))
  | [] => none
  | (c, doubled) :: others =>
    if c = '\x7d' ∧ doubled = false then some others
    else if c = '*' ∨ c = '/' then none
    else afterName others

/-- Read a name behind its opening brace: a star in front makes it the name of a rest. The first
character is taken as it is. What follows is a slash or nothing. -/
def readName? : List (Char × Bool) → Option (PathToken × List (Char × Bool))
  | [] => none
  | (first, _) :: others =>
    if first = '\x7d' then none
    else
      match afterName others with
      | none => none
      | some following =>
        match following with
        | [] | ('/', _) :: _ => some (if first = '*' then .rest else .part, following)
        | _ => none

/-- Read the tokens of a pattern, in so many steps at most. -/
def readTokens? : (steps : Nat) → List (Char × Bool) → Option (List PathToken)
  | 0, _ => none
  | _ + 1, [] => some []
  | steps + 1, (c, doubled) :: others =>
    if c = '\x7d' ∧ doubled = false then none
    else if c = '\x7b' ∧ doubled = false then do
      let (token, following) ← readName? others
      let tokens ← readTokens? steps following
      some (token :: tokens)
    else do
      let tokens ← readTokens? steps others
      some (.char c :: tokens)

/-- The number of named parts that a pattern has at most. -/
def mostParts : Nat := 25

/-- Read a written pattern. A rest is the last token; no segment starts with a colon or a star. -/
def readPath? (path : String) : Option (List PathToken) := do
  let text := withoutDoubledBraces path.toList
  let tokens ← readTokens? (text.length + 1) text
  if (pieces '/' path.toList).any fun segment => segment.head? = some ':' ∨ segment.head? = some '*'
  then none
  else if .rest ∈ tokens.dropLast then none
  else if mostParts < tokens.count .part then none
  else some tokens

/-- Whether two patterns cannot stand side by side: they are the same, or where they part, one goes
on with a named part and the other with a rest. -/
def clash : List PathToken → List PathToken → Bool
  | [], [] => true
  | one :: first, other :: second =>
    if one = other then clash first second
    else (one = .part ∧ other = .rest) ∨ (one = .rest ∧ other = .part)
  | _, _ => false

/-- Whether each pattern of a list can stand beside all later ones. -/
def noneClash : List (List PathToken) → Bool
  | [] => true
  | pattern :: others => others.all (fun other => !clash pattern other) && noneClash others

/-- Whether one listener can serve routes: all their paths are patterns that can stand side by
side. -/
def canServe (routes : List IngestRoute) : Bool :=
  match (routes.flatMap IngestRoute.paths).mapM readPath? with
  | none => false
  | some patterns => noneClash patterns

example : canServe [⟨default, ""⟩, ⟨default, "encoder"⟩, ⟨default, "a/b"⟩] = true := by decide +kernel
example : canServe [⟨default, ""⟩, ⟨default, "\x7bx\x7d"⟩] = false := by decide +kernel
example : canServe [⟨default, "\x7b"⟩, ⟨default, "a\x7bx\x7d"⟩, ⟨default, "\x7b\x7b"⟩] = true := by
  decide +kernel
example : canServe [⟨default, ":x"⟩] = false := by decide +kernel

end LiveRelay
