/-!
# Ranges of code points

Properties of characters are given as lists of inclusive ranges of code points, sorted from low to
high.
-/

namespace TableShell.Text

/-- A table of inclusive ranges of code points, from low to high. -/
abbrev CodeRanges := List (Nat × Nat)

/-- Whether a code point lies in one of the ranges. The search ends at the first range above it. -/
def CodeRanges.covers : CodeRanges → Nat → Bool
  | [], _ => false
  | (first, last) :: rest, n =>
    if n < first then false
    else if n ≤ last then true
    else CodeRanges.covers rest n

end TableShell.Text
