import CircuitDiagnosis.Conflict.Extraction
import CircuitDiagnosis.Conflict.Theory
import CircuitDiagnosis.Proofs.Oracle.Consistency
import CircuitDiagnosis.Proofs.OrdSet.Minimality
import CircuitDiagnosis.Proofs.OrdSet.Subsets

/-!
# Exactness of the extraction

The candidates are all non-empty sets of components of the circuit, each listed once
(`Circuit.mem_candidates`, `Circuit.nodup_candidates`). An oracle that has a verdict on each of some
candidates is asked about all of them, and the conflict sets are the minimal ones among those it
rejects (`conflictsOf_of_map_eq`). Conversely, an extraction that succeeds has asked about every
candidate and got a verdict (`Oracle.verdict_of_not_failed`).

The solver rejects the non-empty conflicts (`mem_rejectedCandidates`). Of a closed circuit with
closed observations it has a verdict on every candidate, so that an extraction succeeds and
enumerates the minimal non-empty conflicts (`enumerates_extract`).
-/

namespace CircuitDiagnosis

open Std OrdSet

universe u

/-! ### The candidates -/

namespace Circuit

variable {circuit : Circuit}

theorem mem_all {i : ComponentId} : i ∈ circuit.all ↔ i ∈ circuit.ids := mem_ofList

/-- The candidates are the non-empty sets of components. -/
theorem mem_candidates {s : ComponentSet} : s ∈ circuit.candidates ↔ s ≠ ∅ ∧ s ⊆ circuit.all := by
  unfold candidates
  have hsize : circuit.size = circuit.ids.length := (List.length_map Component.id).symm
  rw [hsize]
  refine mem_subsets_iff.trans (and_congr_right fun _ => ?_)
  exact forall₂_congr fun i _ => mem_all.symm

/-- No set is a candidate twice. -/
theorem nodup_candidates (circuit : Circuit) : circuit.candidates.Nodup := by
  have hsize : circuit.size = circuit.ids.length := (List.length_map Component.id).symm
  unfold candidates
  rw [hsize]
  exact nodup_subsets circuit.nodup_ids

end Circuit

/-- An outcome that can be evaluated is known. -/
theorem eq_ok_of_toOption {ε α : Type} {x : Except ε α} {a : α} (h : x.toOption = some a) :
    x = .ok a := by
  cases x with
  | error e => cases h
  | ok b => exact congrArg Except.ok (Option.some.inj h)

/-! ### The answers -/

namespace Oracle

variable {σ : Type u} {oracle : Oracle σ} {circuit : Circuit} {observations : List Observation}
  {verdict : ComponentSet → Verdict} {l : List ComponentSet}

/-- After a verdict the next candidate is asked about, in the state that the oracle came to. -/
theorem askAll_cons_of_verdict {c : ComponentSet} {v : Verdict} {state : σ}
    (h : (oracle.ask (.assuming circuit observations c) state).verdict = .ok v) :
    oracle.askAll circuit observations (c :: l) state =
      let reply := oracle.ask (.assuming circuit observations c) state
      let rest := oracle.askAll circuit observations l reply.state
      (⟨c, .ok v, reply.events⟩ :: rest.1, rest.2) := by
  rw [askAll]
  simp only [h]
  rfl

/-- An oracle that fails on none of the candidates answers each of them, in order. -/
theorem map_askAll
    (h : ∀ c ∈ l, ∀ state, (oracle.ask (.assuming circuit observations c) state).verdict =
      .ok (verdict c)) (state : σ) :
    (oracle.askAll circuit observations l state).1.map (fun a => (a.candidate, a.verdict)) =
      l.map fun c => (c, .ok (verdict c)) := by
  induction l generalizing state with
  | nil => rfl
  | cons c rest ih =>
      rw [askAll_cons_of_verdict (h c List.mem_cons_self state), List.map_cons, List.map_cons]
      rw [ih fun d hd => h d (List.mem_cons_of_mem c hd)]

/-- If no query fails then each candidate got a verdict, in some state of the oracle. -/
theorem verdict_of_not_failed {state : σ}
    (h : ∀ a ∈ (oracle.askAll circuit observations l state).1, a.failed = false) {c : ComponentSet}
    (hc : c ∈ l) :
    ∃ s v, (oracle.ask (.assuming circuit observations c) s).verdict = .ok v := by
  induction l generalizing state with
  | nil => cases hc
  | cons d rest ih =>
      cases hv : (oracle.ask (.assuming circuit observations d) state).verdict with
      | error cause =>
          -- The failed query is the only answer.
          rw [askAll, hv] at h
          exact absurd (h _ List.mem_cons_self) Bool.true_eq_false.mp
      | ok v =>
          rw [askAll_cons_of_verdict hv] at h
          rcases List.mem_cons.mp hc with rfl | hc
          · exact ⟨state, v, hv⟩
          · exact ih (fun a ha => h a (List.mem_cons_of_mem _ ha)) hc

end Oracle

/-- Conflict sets are only found if no query fails. -/
theorem failed_eq_false_of_conflictsOf {answers : List Answer} {conflicts : List ComponentSet}
    (h : conflictsOf answers = .ok conflicts) : ∀ a ∈ answers, a.failed = false := by
  intro a ha
  cases hv : a.verdict with
  | ok v =>
      unfold Answer.failed
      rw [hv]
  | error cause =>
      have hnone : answers.findSome? Answer.error? = none := by
        unfold conflictsOf at h
        split at h
        · cases h
        · next hnone => exact hnone
      have herror := List.findSome?_eq_none_iff.mp hnone a ha
      unfold Answer.error? at herror
      rw [hv] at herror
      cases herror

section Answered

variable {answers : List Answer} {l : List ComponentSet} {verdict : ComponentSet → Verdict}
  (h : answers.map (fun a => (a.candidate, a.verdict)) = l.map fun c => (c, .ok (verdict c)))

include h

theorem verdict_eq_of_map_eq : ∀ a ∈ answers, a.verdict = .ok (verdict a.candidate) := by
  intro a ha
  have hmem := List.mem_map_of_mem (f := fun a => (a.candidate, a.verdict)) ha
  rw [h] at hmem
  obtain ⟨c, _, heq⟩ := List.mem_map.mp hmem
  obtain ⟨hc, hv⟩ := Prod.mk.inj heq
  rw [← hv, ← hc]

theorem candidate_of_map_eq : answers.map Answer.candidate = l := by
  have hfst := congrArg (List.map Prod.fst) h
  rw [List.map_map, List.map_map] at hfst
  exact hfst.trans (List.map_id l)

/-- Among answers without a failure the inconsistent ones are those about the rejected
candidates. -/
theorem candidate_conflicting_of_map_eq :
    (answers.filter Answer.conflicting).map Answer.candidate =
      l.filter fun c => decide (verdict c = .unsatisfiable) := by
  have hconflicting : answers.filter Answer.conflicting =
      answers.filter ((fun c => decide (verdict c = .unsatisfiable)) ∘ Answer.candidate) := by
    refine List.filter_congr fun a ha => ?_
    unfold Answer.conflicting
    rw [verdict_eq_of_map_eq h a ha, Function.comp_apply]
    cases verdict a.candidate <;> rfl
  rw [hconflicting, ← List.filter_map, candidate_of_map_eq h]

/-- The conflict sets of answers without a failure are the minimal rejected candidates. -/
theorem conflictsOf_of_map_eq :
    conflictsOf answers =
      .ok (retainMinimal (l.filter fun c => decide (verdict c = .unsatisfiable))) := by
  have herror : answers.findSome? Answer.error? = none := by
    rw [List.findSome?_eq_none_iff]
    intro a ha
    unfold Answer.error?
    rw [verdict_eq_of_map_eq h a ha]
  unfold conflictsOf
  rw [herror, candidate_conflicting_of_map_eq h]

end Answered

/-- In an extraction by an oracle that has a verdict on every candidate each of them has its
answer. -/
theorem map_answers_extract_of_verdict {σ : Type u} {oracle : Oracle σ} {circuit : Circuit}
    {observations : List Observation} {verdict : ComponentSet → Verdict} (extractor : Extractor σ)
    (h : ∀ c ∈ circuit.candidates, ∀ state,
      (oracle.ask (.assuming circuit observations c) state).verdict = .ok (verdict c)) :
    (extractor.extract oracle circuit observations).answers.map
        (fun a => (a.candidate, a.verdict)) =
      circuit.candidates.map fun c => (c, .ok (verdict c)) := by
  unfold Extractor.extract
  simp only [Oracle.askSizes_eq_askAll]
  exact Oracle.map_askAll h extractor.state

/-! ### The extraction by the solver -/

/-- The candidates that the solver rejects, in the order of the questions. -/
def rejectedCandidates (circuit : Circuit) (observations : List Observation) : List ComponentSet :=
  circuit.candidates.filter fun c =>
    decide ((Query.assuming circuit observations c).solve = .unsatisfiable)

section Solver

variable {circuit : Circuit} {observations : List Observation}

/-- A conflict with members contains a minimal one. -/
theorem IsConflict.exists_minimal_subset {s : ComponentSet} (hs : IsConflict circuit observations s)
    (hne : s ≠ ∅) : ∃ m, m ⊆ s ∧ IsMinimalConflict circuit observations m :=
  exists_minimalFor_subset ⟨hne, hs⟩

theorem mem_rejectedCandidates {s : ComponentSet} :
    s ∈ rejectedCandidates circuit observations ↔ s ≠ ∅ ∧ IsConflict circuit observations s := by
  unfold rejectedCandidates
  rw [List.mem_filter, Circuit.mem_candidates, decide_eq_true_eq,
    Query.solve_eq_unsatisfiable_iff, and_assoc]
  rfl

theorem enumerates_rejectedCandidates (circuit : Circuit) (observations : List Observation) :
    Enumerates (IsMinimalConflict circuit observations)
      (retainMinimal (rejectedCandidates circuit observations)) :=
  enumerates_retainMinimal (fun _ hs => mem_rejectedCandidates.mp hs)
    fun _ hm => mem_rejectedCandidates.mpr hm.holds

/-- The answers of an extraction, if the queries about the candidates are closed. -/
theorem map_answers_extract (extractor : Extractor Unit)
    (h : ∀ c ∈ circuit.candidates, (Query.assuming circuit observations c).Closed) :
    (extractor.extract solverOracle circuit observations).answers.map
        (fun a => (a.candidate, a.verdict)) =
      circuit.candidates.map fun c => (c, .ok (Query.assuming circuit observations c).solve) := by
  refine map_answers_extract_of_verdict extractor fun c hc _ => ?_
  rw [verdict_ask_solverOracle, Query.verdict_of_closed _ (h c hc)]

/-- An extraction asks about every candidate if all these queries are closed. -/
theorem outcome_extract_of_closed (extractor : Extractor Unit)
    (h : ∀ c ∈ circuit.candidates, (Query.assuming circuit observations c).Closed) :
    (extractor.extract solverOracle circuit observations).outcome =
      .ok (retainMinimal (rejectedCandidates circuit observations)) :=
  conflictsOf_of_map_eq (map_answers_extract extractor h)

/-- An extraction that succeeds has asked closed queries only. -/
theorem closed_of_outcome_extract {extractor : Extractor Unit} {conflicts : List ComponentSet}
    (h : (extractor.extract solverOracle circuit observations).outcome = .ok conflicts) :
    ∀ c ∈ circuit.candidates, (Query.assuming circuit observations c).Closed := by
  intro c hc
  have hanswers : ∀ a ∈ (extractor.extract solverOracle circuit observations).answers,
      a.failed = false := failed_eq_false_of_conflictsOf h
  unfold Extractor.extract at hanswers
  simp only [Oracle.askSizes_eq_askAll] at hanswers
  obtain ⟨state, v, hv⟩ := Oracle.verdict_of_not_failed hanswers hc
  rw [verdict_ask_solverOracle] at hv
  exact Query.closed_of_verdict_eq_ok hv

/-- An extraction whose queries are closed succeeds and enumerates the minimal non-empty
conflicts. -/
theorem enumerates_extract (extractor : Extractor Unit)
    (h : ∀ s, (Query.assuming circuit observations s).Closed) :
    ∃ conflicts, (extractor.extract solverOracle circuit observations).outcome = .ok conflicts ∧
      Enumerates (IsMinimalConflict circuit observations) conflicts :=
  ⟨_, outcome_extract_of_closed extractor fun c _ => h c,
    enumerates_rejectedCandidates circuit observations⟩

end Solver

end CircuitDiagnosis
