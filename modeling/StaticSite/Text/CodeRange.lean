/-
StaticSite.Text.CodeRange — sets of code points as lists of ranges.
-/

namespace StaticSite.Text

/-- A range of code points, both ends included. -/
abbrev CodeRange := Nat × Nat

/-- Is the code point in one of the ranges, which are in ascending order? -/
def inRanges : List CodeRange → Nat → Bool
  | [], _ => false
  | (first, last) :: rest, n =>
    if n < first then false else if n ≤ last then true else inRanges rest n

end StaticSite.Text
