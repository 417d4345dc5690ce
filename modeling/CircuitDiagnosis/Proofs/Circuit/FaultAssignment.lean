import CircuitDiagnosis.Circuit.FaultAssignment
import Mathlib.Data.List.Nodup

/-!
# The flags that are fixed

Fixing the flag of a component replaces what was fixed of it and keeps the flags of all others
(`FaultAssignment.mem_flags_set`). An assignment built from flags of distinct components has exactly
these flags (`FaultAssignment.mem_flags_ofFlags`), so that a healthy subset fixes the flag of each
component of the circuit and no other (`FaultAssignment.mem_flags_healthySubset`), while
`FaultAssignment.healthyOnly` fixes those of the subset alone.
-/

namespace CircuitDiagnosis

open Std

namespace FaultAssignment

theorem component_ne_of_lt {f g : FaultFlag} (h : compare f.component g.component = .lt) :
    g.component ≠ f.component := by
  intro he
  rw [he, compare_self] at h
  cases h

/-- What is fixed of a component is fixed once. -/
theorem eq_of_mem_flags {faults : FaultAssignment} {f g : FaultFlag} (hf : f ∈ faults.flags)
    (hg : g ∈ faults.flags) (h : f.component = g.component) : f = g := by
  have hnodup : (faults.flags.map FaultFlag.component).Nodup := by
    rw [List.nodup_iff_pairwise_ne, List.pairwise_map]
    exact faults.increasing.imp fun hlt => (component_ne_of_lt hlt).symm
  exact List.inj_on_of_nodup_map hnodup hf hg h

theorem isFaulty?_eq_some_iff {faults : FaultAssignment} {component : ComponentId} {faulty : Bool} :
    faults.isFaulty? component = some faulty ↔ ⟨component, faulty⟩ ∈ faults.flags := by
  have hfound : ∀ f, (faults.flags.find? fun f => f.component == component) = some f →
      f ∈ faults.flags ∧ f.component = component := by
    intro f hfind
    have hbeq := List.find?_some hfind
    exact ⟨List.mem_of_find?_eq_some hfind, beq_iff_eq.mp hbeq⟩
  unfold isFaulty?
  rw [Option.map_eq_some_iff]
  constructor
  · rintro ⟨f, hfind, rfl⟩
    obtain ⟨hflag, rfl⟩ := hfound f hfind
    exact hflag
  · intro hflag
    have hsome : (faults.flags.find? fun f => f.component == component).isSome = true :=
      List.find?_isSome.mpr ⟨_, hflag, beq_self_eq_true component⟩
    obtain ⟨f, hfind⟩ := Option.isSome_iff_exists.mp hsome
    obtain ⟨hmem, hcomponent⟩ := hfound f hfind
    -- The flag that is found is one of the same component, so it is this one.
    refine ⟨f, hfind, ?_⟩
    rw [eq_of_mem_flags hmem hflag hcomponent]

theorem mem_insertFlag_iff {f g : FaultFlag} {l : List FaultFlag}
    (h : l.Pairwise fun g k => compare g.component k.component = .lt) :
    g ∈ insertFlag f l ↔ g = f ∨ g ∈ l ∧ g.component ≠ f.component := by
  induction l with
  | nil => simp [insertFlag]
  | cons k rest ih =>
      obtain ⟨hk, hrest⟩ := List.pairwise_cons.mp h
      unfold insertFlag
      split
      · next hlt =>
        -- Every flag of the list stands behind the place of `f`.
        have hbehind : ∀ g ∈ k :: rest, g.component ≠ f.component := by
          intro g hg
          rcases List.mem_cons.mp hg with rfl | hg
          · exact component_ne_of_lt hlt
          · exact component_ne_of_lt (TransCmp.lt_trans hlt (hk g hg))
        rw [List.mem_cons]
        exact or_congr_right ⟨fun hg => ⟨hg, hbehind g hg⟩, fun hg => hg.1⟩
      · next heq =>
        have hcomp : f.component = k.component := LawfulEqCmp.eq_of_compare heq
        have hbehind : ∀ g ∈ rest, g.component ≠ f.component := by
          intro g hg
          rw [hcomp]
          exact component_ne_of_lt (hk g hg)
        rw [List.mem_cons]
        refine or_congr_right ⟨fun hg => ⟨List.mem_cons_of_mem k hg, hbehind g hg⟩, ?_⟩
        rintro ⟨hg, hne⟩
        rcases List.mem_cons.mp hg with rfl | hg
        · exact absurd hcomp.symm hne
        · exact hg
      · next hgt =>
        have hne : k.component ≠ f.component :=
          (component_ne_of_lt (OrientedCmp.gt_iff_lt.mp hgt)).symm
        rw [List.mem_cons, ih hrest, List.mem_cons]
        constructor
        · rintro (rfl | rfl | hg)
          · exact Or.inr ⟨Or.inl rfl, hne⟩
          · exact Or.inl rfl
          · exact Or.inr ⟨Or.inr hg.1, hg.2⟩
        · rintro (rfl | ⟨rfl | hg, hgf⟩)
          · exact Or.inr (Or.inl rfl)
          · exact Or.inl rfl
          · exact Or.inr (Or.inr ⟨hg, hgf⟩)

/-- The flags after one is fixed: the new one and those of other components. -/
theorem mem_flags_set {faults : FaultAssignment} {component : ComponentId} {faulty : Bool}
    {g : FaultFlag} :
    g ∈ (faults.set component faulty).flags ↔
      g = ⟨component, faulty⟩ ∨ g ∈ faults.flags ∧ g.component ≠ component :=
  mem_insertFlag_iff faults.increasing

theorem mem_flags_foldl_set {flags : List FaultFlag} {faults : FaultAssignment} {g : FaultFlag}
    (h : (flags.map FaultFlag.component).Nodup) :
    g ∈ (flags.foldl (fun faults f => faults.set f.component f.faulty) faults).flags ↔
      g ∈ flags ∨ g ∈ faults.flags ∧ g.component ∉ flags.map FaultFlag.component := by
  induction flags generalizing faults with
  | nil => simp
  | cons f rest ih =>
      obtain ⟨hf, hrest⟩ := List.nodup_cons.mp h
      rw [List.foldl_cons, ih hrest, mem_flags_set, List.map_cons, List.mem_cons, List.mem_cons]
      constructor
      · rintro (hg | ⟨rfl | ⟨hg, hne⟩, hnot⟩)
        · exact Or.inl (Or.inr hg)
        · exact Or.inl (Or.inl rfl)
        · exact Or.inr ⟨hg, fun hmem => hmem.elim hne hnot⟩
      · rintro ((rfl | hg) | ⟨hg, hnot⟩)
        · exact Or.inr ⟨Or.inl rfl, hf⟩
        · exact Or.inl hg
        · exact Or.inr ⟨Or.inr ⟨hg, fun he => hnot (Or.inl he)⟩, fun hmem => hnot (Or.inr hmem)⟩

/-- An assignment of flags of distinct components has these flags and no other. -/
theorem mem_flags_ofFlags {flags : List FaultFlag} {g : FaultFlag}
    (h : (flags.map FaultFlag.component).Nodup) : g ∈ (ofFlags flags).flags ↔ g ∈ flags := by
  unfold ofFlags
  rw [mem_flags_foldl_set h]
  exact ⟨fun hg => hg.elim id fun hg => (by cases hg.1), Or.inl⟩

/-- The members of the set are fixed to be healthy, the other components of the circuit to be
faulty. -/
theorem mem_flags_healthySubset {circuit : Circuit} {healthy : ComponentSet} {g : FaultFlag} :
    g ∈ (healthySubset circuit healthy).flags ↔
      g.component ∈ circuit.ids ∧ g.faulty = !healthy.contains g.component := by
  unfold healthySubset
  have hnodup : ((circuit.ids.map fun i => (⟨i, !healthy.contains i⟩ : FaultFlag)).map
      FaultFlag.component).Nodup := by
    rw [List.map_map]
    change (circuit.ids.map id).Nodup
    rw [List.map_id]
    exact circuit.nodup_ids
  rw [mem_flags_ofFlags hnodup, List.mem_map]
  constructor
  · rintro ⟨i, hi, rfl⟩
    exact ⟨hi, rfl⟩
  · rintro ⟨hg, hfaulty⟩
    refine ⟨g.component, hg, ?_⟩
    rw [← hfaulty]

/-- The members of the set are fixed to be healthy, and nothing else is fixed. -/
def healthyOnly (healthy : ComponentSet) : FaultAssignment :=
  healthy.toList.foldl setHealthy empty

theorem mem_flags_healthyOnly {healthy : ComponentSet} {g : FaultFlag} :
    g ∈ (healthyOnly healthy).flags ↔ g.component ∈ healthy ∧ g.faulty = false := by
  have hofFlags : healthyOnly healthy = ofFlags (healthy.toList.map fun i => ⟨i, false⟩) := by
    unfold healthyOnly ofFlags setHealthy
    rw [List.foldl_map]
  have hnodup : ((healthy.toList.map fun i => (⟨i, false⟩ : FaultFlag)).map
      FaultFlag.component).Nodup := by
    rw [List.map_map]
    change (healthy.toList.map id).Nodup
    rw [List.map_id]
    exact healthy.nodup_toList
  rw [hofFlags, mem_flags_ofFlags hnodup, List.mem_map]
  constructor
  · rintro ⟨i, hi, rfl⟩
    exact ⟨hi, rfl⟩
  · rintro ⟨hg, hfaulty⟩
    refine ⟨g.component, hg, ?_⟩
    rw [← hfaulty]

end FaultAssignment

end CircuitDiagnosis
