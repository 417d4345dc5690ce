import CircuitDiagnosis.Proofs.HittingSet.Walk
import Mathlib.Data.ENat.Lattice

/-!
# The limit of a stop condition

A stop rule has a limit if it says stop exactly from some number of visited nodes on
(`StopRule.StopsAt`). A condition built from budgets has one, as long as no positive budget of time
runs out: the least of its node budgets, and zero with a time budget of zero
(`StopRule.stopsAt_timed`). A visited node lowers the limit of what is left by one
(`StopCondition.limit_nodeVisited`), however the condition is nested.
-/

namespace CircuitDiagnosis

namespace StopCondition

/-- After how many nodes a condition stops a search that takes no time, infinite if it never
does. -/
def limit (condition : StopCondition) : ℕ∞ := condition.nodeLimit.elim ⊤ fun n => (n : ℕ∞)

/-- Under the clock no budget of time runs out, unless it is one of no time. -/
def TimeSuffices (clock : Nat → Nat) : StopCondition → Prop
  | .indefinite | .absent | .nodeBudget _ _ => True
  | .given condition => condition.TimeSuffices clock
  | .timeBudget milliseconds => milliseconds = 0 ∨ ∀ n, clock n < milliseconds
  | .either first second => first.TimeSuffices clock ∧ second.TimeSuffices clock

theorem limit_either (first second : StopCondition) :
    (either first second).limit = min first.limit second.limit := by
  change (minLimit first.nodeLimit second.nodeLimit).elim ⊤ (fun n => (n : ℕ∞)) =
    min (first.nodeLimit.elim ⊤ fun n => (n : ℕ∞)) (second.nodeLimit.elim ⊤ fun n => (n : ℕ∞))
  cases first.nodeLimit with
  | none => exact (min_eq_right le_top).symm
  | some m =>
      cases second.nodeLimit with
      | none => exact (min_eq_left le_top).symm
      | some n => exact Nat.mono_cast.map_min

/-- A visited node lowers the limit by one, if it is finite and not reached yet. -/
theorem limit_nodeVisited (condition : StopCondition) :
    condition.nodeVisited.limit = condition.limit - 1 := by
  induction condition with
  | indefinite => rfl
  | absent => rfl
  | given condition ih => exact ih
  | nodeBudget budget visited =>
      change ((budget - (visited + 1) : ℕ) : ℕ∞) = ((budget - visited : ℕ) : ℕ∞) - 1
      rw [← Nat.sub_sub, ENat.natCast_sub, Nat.cast_one]
  | timeBudget milliseconds =>
      unfold nodeVisited limit nodeLimit
      split
      · rfl
      · rfl
  | either first second ihf ihs =>
      unfold nodeVisited
      rw [limit_either, limit_either, ihf, ihs]
      have hmono : Monotone fun n : ℕ∞ => n - 1 := fun m n h => tsub_le_tsub_right h 1
      exact hmono.map_min.symm

theorem TimeSuffices.nodeVisited {clock : Nat → Nat} {condition : StopCondition}
    (h : condition.TimeSuffices clock) : condition.nodeVisited.TimeSuffices clock := by
  induction condition with
  | indefinite | absent | nodeBudget | timeBudget => exact h
  | given condition ih => exact ih h
  | either first second ihf ihs => exact ⟨ihf h.1, ihs h.2⟩

/-- A condition says stop when its limit is used up. -/
theorem shouldStop_iff {clock : Nat → Nat} {condition : StopCondition}
    (h : condition.TimeSuffices clock) (reading : Nat) :
    condition.shouldStop (clock reading) = true ↔ condition.limit = 0 := by
  induction condition with
  | indefinite | absent => exact ⟨fun h => (by cases h), fun h => (by cases h)⟩
  | given condition ih => exact ih h
  | nodeBudget budget visited =>
      change decide (budget ≤ visited) = true ↔ ((budget - visited : ℕ) : ℕ∞) = 0
      rw [decide_eq_true_eq, Nat.cast_eq_zero, Nat.sub_eq_zero_iff_le]
  | timeBudget milliseconds =>
      unfold shouldStop limit nodeLimit
      rw [decide_eq_true_eq]
      split
      · next hzero => exact ⟨fun _ => rfl, fun _ => hzero ▸ Nat.zero_le _⟩
      · next hpos =>
        have hlt := h.resolve_left hpos reading
        exact ⟨fun hle => absurd hle (by omega), fun htop => (by cases htop)⟩
  | either first second ihf ihs =>
      unfold shouldStop
      rw [Bool.or_eq_true, ihf h.1, ihs h.2, limit_either]
      simp only [← nonpos_iff_eq_zero, min_le_iff]

end StopCondition

namespace StopRule

variable {τ : Type}

/-- The rule says stop exactly from some number of visited nodes on. -/
def StopsAt (rule : StopRule τ) (stop : τ) (limit : ℕ∞) : Prop :=
  ∀ n : ℕ, (rule.shouldStop (rule.stateAfter stop n)).1 = true ↔ limit ≤ n

open StopCondition

/-- A condition whose time suffices says stop from its limit on. -/
theorem stopsAt_timed {clock : Nat → Nat} {condition : StopCondition}
    (h : condition.TimeSuffices clock) :
    (timed clock).StopsAt ⟨condition, 0⟩ condition.limit := by
  -- What is left of the condition after `n` nodes, at whatever reading of the clock.
  have hleft : ∀ n : ℕ,
      ((timed clock).stateAfter ⟨condition, 0⟩ n).condition.TimeSuffices clock ∧
        ((timed clock).stateAfter ⟨condition, 0⟩ n).condition.limit = condition.limit - n := by
    intro n
    induction n with
    | zero => exact ⟨h, (tsub_zero _).symm⟩
    | succ n ih =>
        obtain ⟨htime, hlimit⟩ := ih
        refine ⟨htime.nodeVisited, ?_⟩
        rw [Nat.cast_succ, ← tsub_tsub, ← hlimit, ← limit_nodeVisited]
        rfl
  intro n
  obtain ⟨htime, hlimit⟩ := hleft n
  refine (shouldStop_iff htime _).trans ?_
  rw [hlimit, tsub_eq_zero_iff_le]

end StopRule

end CircuitDiagnosis
