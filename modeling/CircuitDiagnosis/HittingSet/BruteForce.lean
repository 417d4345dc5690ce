import CircuitDiagnosis.HittingSet.Basic
import CircuitDiagnosis.OrdSet.Combinations
import CircuitDiagnosis.OrdSet.Minimal

/-!
# Hitting sets by exhaustion

All combinations of the elements that occur in the conflict sets are tested, by increasing size.
The cost is exponential in the number of elements.
-/

namespace CircuitDiagnosis

open Std

universe u

/-- The result of testing all combinations: those that hit every conflict set in the order of the
test, the minimal ones among them, and the number of combinations. -/
structure BruteForceResult (α : Type u) [Ord α] where
  hittingSets : List (OrdSet α)
  minimalHittingSets : List (OrdSet α)
  combinationsTested : Nat

variable {α : Type u} [Ord α] [TransOrd α]

/-- The non-empty subsets of a set by size, those of one size in lexicographic order. -/
def OrdSet.nonemptySubsets (s : OrdSet α) : List (OrdSet α) :=
  (List.range' 1 s.size).flatMap fun size => (combinations size s.toList).map .ofList

/-- Tests every combination of the elements of the conflict sets. Without conflict sets nothing is
tested: the empty set is the hitting set. -/
def bruteForce (conflicts : List (OrdSet α)) : BruteForceResult α :=
  if conflicts.isEmpty then ⟨[∅], [∅], 0⟩
  else
    let tested := (OrdSet.union conflicts).nonemptySubsets
    let hitting := tested.filter fun s => s.hitsAll conflicts
    ⟨hitting, OrdSet.retainMinimal hitting, tested.length⟩

end CircuitDiagnosis
