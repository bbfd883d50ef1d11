/-!
Sets of code points, given as ranges.
-/

namespace CompilerDriver

/-- A set of code points as a list of ranges; both ends belong to a range. -/
abbrev CodeRanges := List (Nat × Nat)

/-- Whether a code point lies in one of the ranges. -/
def CodeRanges.contains (ranges : CodeRanges) (code : Nat) : Bool :=
  ranges.any fun (first, last) => first ≤ code && code ≤ last

end CompilerDriver
