import CircuitDiagnosis.HittingSet.BruteForce
import CircuitDiagnosis.HittingSet.Search
import CircuitDiagnosis.Log.Event

/-!
# Diagnoses of conflict sets

The hitting sets of conflict sets of components, found by a search under a heuristic and a stop
condition or by exhaustion, and what both log.
-/

namespace CircuitDiagnosis

/-- Searches for the minimal hitting sets under a stop condition. An unseeded random heuristic
starts with the generator `unseeded`. -/
def SearchOptions.search (options : SearchOptions) (unseeded : Generator) (clock : Nat → Nat)
    (condition : StopCondition) (conflicts : List ComponentSet) : SearchResult ComponentId :=
  CircuitDiagnosis.search conflicts options.heuristic.selector (options.generator unseeded)
    (.timed clock) ⟨condition, 0⟩

/-- What is logged of a visit. -/
def Visit.events (v : Visit ComponentId) : List Event :=
  match v.finding with
  | .solution => [.solutionRecorded v.path]
  | .pruned => [.pathPruned v.path]
  | .expanded .. => []

/-- What a search of conflict sets logs. -/
def SearchResult.events (r : SearchResult ComponentId) (heuristic : Heuristic)
    (conflicts : List ComponentSet) : List Event :=
  if conflicts.isEmpty then [.nothingToHit]
  else
    (if conflicts.any OrdSet.isEmpty then [.unhittable] else []) ++
      r.visits.flatMap Visit.events ++
      (if r.isComplete then [] else [.searchStopped r.pending]) ++
      [.searchEnded heuristic r.statistics.nodesVisited r.minimalHittingSets.length]

/-- What testing all combinations logs. -/
def BruteForceResult.events (r : BruteForceResult ComponentId) (conflicts : List ComponentSet) :
    List Event :=
  if conflicts.isEmpty then []
  else
    [.combinationsTested r.combinationsTested (OrdSet.union conflicts).size r.hittingSets.length]

end CircuitDiagnosis
