import CircuitDiagnosis.Circuit.Basic

/-!
# Fault assignments

A partial assignment of health to components: for some of them it is fixed whether they are faulty,
the others are left open. The fixed flags are kept in the order of their components.
-/

namespace CircuitDiagnosis

open Std

/-- It is fixed of a component whether it is faulty. -/
structure FaultFlag where
  component : ComponentId
  faulty : Bool
  deriving DecidableEq, Repr, Inhabited

/-- The fixed flags, at most one for each component, in the order of the components. -/
structure FaultAssignment where
  flags : List FaultFlag
  increasing : flags.Pairwise fun f g => compare f.component g.component = .lt

namespace FaultAssignment

/-- Puts a flag into its place; it takes the place of an earlier flag of its component. -/
def insertFlag (f : FaultFlag) : List FaultFlag → List FaultFlag
  | [] => [f]
  | g :: rest =>
    match compare f.component g.component with
    | .lt => f :: g :: rest
    | .eq => f :: rest
    | .gt => g :: insertFlag f rest

theorem component_of_mem_insertFlag {f g : FaultFlag} {l : List FaultFlag}
    (h : g ∈ insertFlag f l) : g.component = f.component ∨ g ∈ l := by
  induction l with
  | nil => simp only [insertFlag, List.mem_singleton] at h; exact .inl (h ▸ rfl)
  | cons k rest ih =>
    simp only [insertFlag] at h
    split at h
    · rcases List.mem_cons.1 h with rfl | h
      · exact .inl rfl
      · exact .inr h
    · rcases List.mem_cons.1 h with rfl | h
      · exact .inl rfl
      · exact .inr (List.mem_cons_of_mem _ h)
    · rcases List.mem_cons.1 h with rfl | h
      · exact .inr (by simp)
      · exact (ih h).imp_right (List.mem_cons_of_mem _)

theorem pairwise_insertFlag (f : FaultFlag) {l : List FaultFlag}
    (h : l.Pairwise fun g k => compare g.component k.component = .lt) :
    (insertFlag f l).Pairwise fun g k => compare g.component k.component = .lt := by
  induction l with
  | nil => simp [insertFlag]
  | cons g rest ih =>
    have hg := List.pairwise_cons.1 h
    simp only [insertFlag]
    split
    · next hlt =>
      refine List.pairwise_cons.2 ⟨fun k hk => ?_, h⟩
      rcases List.mem_cons.1 hk with rfl | hk
      · exact hlt
      · exact TransCmp.lt_trans hlt (hg.1 k hk)
    · next heq =>
      have heq := LawfulEqCmp.eq_of_compare heq
      exact List.pairwise_cons.2 ⟨fun k hk => heq ▸ hg.1 k hk, hg.2⟩
    · next hgt =>
      refine List.pairwise_cons.2 ⟨fun k hk => ?_, ih hg.2⟩
      rcases component_of_mem_insertFlag hk with hk | hk
      · rw [hk]; exact OrientedCmp.gt_iff_lt.1 hgt
      · exact hg.1 k hk

/-- Nothing is fixed. -/
def empty : FaultAssignment := ⟨[], .nil⟩

instance : Inhabited FaultAssignment := ⟨empty⟩

/-- Fixes the flag of a component, in place of an earlier one. -/
def set (faults : FaultAssignment) (component : ComponentId) (faulty : Bool) : FaultAssignment :=
  ⟨insertFlag ⟨component, faulty⟩ faults.flags, pairwise_insertFlag _ faults.increasing⟩

/-- Fixes that a component is healthy. -/
def setHealthy (faults : FaultAssignment) (component : ComponentId) : FaultAssignment :=
  faults.set component false

/-- Fixes that a component is faulty. -/
def setFaulty (faults : FaultAssignment) (component : ComponentId) : FaultAssignment :=
  faults.set component true

/-- The assignment of a list of flags; a later flag of a component wins. -/
def ofFlags (flags : List FaultFlag) : FaultAssignment :=
  flags.foldl (fun faults f => faults.set f.component f.faulty) empty

/-- The components of the circuit that are in `healthy` are healthy, its other components are
faulty. -/
def healthySubset (circuit : Circuit) (healthy : ComponentSet) : FaultAssignment :=
  ofFlags (circuit.ids.map fun id => ⟨id, !healthy.contains id⟩)

/-- What is fixed of a component, if anything is. -/
def isFaulty? (faults : FaultAssignment) (component : ComponentId) : Option Bool :=
  (faults.flags.find? fun f => f.component == component).map FaultFlag.faulty

/-- Whether no flag is fixed. -/
def isEmpty (faults : FaultAssignment) : Bool := faults.flags.isEmpty

end FaultAssignment

end CircuitDiagnosis
