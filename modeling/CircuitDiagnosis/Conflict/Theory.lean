import CircuitDiagnosis.HittingSet.Basic
import CircuitDiagnosis.Oracle.Query
import CircuitDiagnosis.OrdSet.Minimal

/-!
# Conflicts and diagnoses

What conflict sets and diagnoses are, said by consistency and not by any algorithm. A conflict is a
set of components that cannot all be healthy; a diagnosis is a set whose members may be the faulty
components, all others being healthy.
-/

namespace CircuitDiagnosis

variable (circuit : Circuit) (observations : List Observation)

/-- The components cannot all be healthy, given the observations. -/
def IsConflict (s : ComponentSet) : Prop :=
  s ⊆ circuit.all ∧ ¬ (Query.assuming circuit observations s).Consistent

/-- The components may be the faulty ones, given the observations. -/
def IsDiagnosis (s : ComponentSet) : Prop :=
  s ⊆ circuit.all ∧ (Query.blaming circuit observations s).Consistent

/-- A conflict with members in which no smaller one with members lies. Whether the empty set is a
conflict as well, an extraction never asks. -/
def IsMinimalConflict (s : ComponentSet) : Prop :=
  OrdSet.MinimalFor (fun s => s ≠ ∅ ∧ IsConflict circuit observations s) s

/-- A diagnosis without smaller diagnoses in it. -/
def IsMinimalDiagnosis (s : ComponentSet) : Prop :=
  OrdSet.MinimalFor (IsDiagnosis circuit observations) s

end CircuitDiagnosis
