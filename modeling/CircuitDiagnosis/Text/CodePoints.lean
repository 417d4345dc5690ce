/-!
# Ranges of code points

A set of characters as an increasing list of ranges of code points, both ends included.
-/

namespace CircuitDiagnosis.Text

/-- Whether a code point lies in one of the ranges, which are in increasing order. -/
def inRanges (n : Nat) : List (Nat × Nat) → Bool
  | [] => false
  | (first, last) :: rest => first ≤ n && (n ≤ last || inRanges n rest)

end CircuitDiagnosis.Text
