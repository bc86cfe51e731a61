/-
Module: LiveRelay.Settings
Purpose: Settings as trees of values, in layers of which the upper hide the lower key by key.
Main exports: Setting, Layer, Layer.over
-/

namespace LiveRelay

/-- A value that a configuration source gives to a key. Fractions and moments are kept as they
were written: no key of the relay takes one. -/
inductive Setting where
  | boolean (value : Bool)
  | integer (value : Int)
  | fraction (written : String)
  | moment (written : String)
  | text (value : String)
  | list (items : List Setting)
  | table (entries : List (String × Setting))
deriving Repr, Inhabited

/-- The keys that one source sets. Where a key occurs more than once, its first entry counts. -/
abbrev Layer := List (String × Setting)

/-- An upper layer on a lower one: a key that the upper layer sets hides the same key below, and
its whole value with it. -/
def Layer.over (upper lower : Layer) : Layer := upper ++ lower

theorem Layer.lookup_over (upper lower : Layer) (key : String) :
    (upper.over lower).lookup key = (upper.lookup key).or (lower.lookup key) := by
  simp [Layer.over, List.lookup_append]

end LiveRelay
