import CircuitDiagnosis.Proofs.Conflict.Extraction
import Mathlib.Data.List.GetD

/-!
# The questions of an extraction

Which candidates an extraction asks about, and in which order, does not depend on the answers as
long as no query fails. The candidates come by increasing size, those of one size in the
lexicographic order of the places that their members have in the circuit
(`Circuit.pairwise_candidates`); this is not the order of the identifiers. With `n` components there
are `2 ^ n - 1` of them (`Circuit.length_candidates`).

The conflict sets, on the other hand, are listed in the order of the identifiers.
`extract_exact` joins both for an oracle of any kind: it may keep a state, and its verdicts need not
be monotone in the candidate.
-/

namespace CircuitDiagnosis

open Std OrdSet

universe u

/-! ### The order of the candidates -/

namespace Circuit

variable (circuit : Circuit)

/-- The identifier at a place in the order of declaration. -/
def idAt (i : Nat) : ComponentId := circuit.ids.getD i ""

/-- The places of the members of a set in the order of declaration, the first one first. -/
def places (s : ComponentSet) : List Nat :=
  (List.range circuit.size).filter fun i => s.contains (circuit.idAt i)

/-- The first set is asked about before the second one: it is smaller, or it is of the same size and
the places of its members are lexicographically smaller. -/
def AsksBefore (s t : ComponentSet) : Prop :=
  s.size < t.size ∨ s.size = t.size ∧ List.Lex (· < ·) (circuit.places s) (circuit.places t)

theorem length_ids : circuit.ids.length = circuit.size := List.length_map Component.id

theorem map_idAt_range : (List.range circuit.size).map circuit.idAt = circuit.ids := by
  refine List.ext_getElem (by simp [length_ids]) fun i hi hi' => ?_
  rw [List.getElem_map, List.getElem_range]
  exact List.getD_eq_getElem _ "" hi'

variable {circuit}

theorem idAt_inj {i j : Nat} (hi : i < circuit.size) (hj : j < circuit.size)
    (h : circuit.idAt i = circuit.idAt j) : i = j := by
  rw [← length_ids] at hi hj
  unfold idAt at h
  rw [List.getD_eq_getElem _ "" hi, List.getD_eq_getElem _ "" hj] at h
  exact circuit.nodup_ids.getElem_inj_iff.mp h

theorem mem_map_idAt_iff {c : List Nat} (hc : c.Sublist (List.range circuit.size)) {i : Nat}
    (hi : i < circuit.size) : circuit.idAt i ∈ c.map circuit.idAt ↔ i ∈ c := by
  refine ⟨fun h => ?_, fun h => List.mem_map_of_mem h⟩
  obtain ⟨j, hj, hji⟩ := List.mem_map.mp h
  rw [← idAt_inj (List.mem_range.mp (hc.subset hj)) hi hji]
  exact hj

/-- The set of the identifiers at some places has these places. -/
theorem places_ofList {c : List Nat} (hc : c.Sublist (List.range circuit.size)) :
    circuit.places (ofList (c.map circuit.idAt)) = c := by
  refine eq_of_ofList_eq List.nodup_range List.filter_sublist hc (ext_mem fun i => ?_)
  unfold places
  rw [mem_ofList, mem_ofList, List.mem_filter, List.mem_range, OrdSet.contains_iff,
    mem_ofList]
  constructor
  · rintro ⟨hi, hmem⟩
    exact (mem_map_idAt_iff hc hi).mp hmem
  · intro hmem
    have hi : i < circuit.size := List.mem_range.mp (hc.subset hmem)
    exact ⟨hi, (mem_map_idAt_iff hc hi).mpr hmem⟩

theorem candidatesOfSize_eq_map (k : Nat) :
    circuit.candidatesOfSize k =
      (combinations k (List.range circuit.size)).map fun c => ofList (c.map circuit.idAt) := by
  unfold candidatesOfSize
  rw [← map_idAt_range, combinations_map, List.map_map]
  rfl

theorem size_of_mem_candidatesOfSize {k : Nat} {s : ComponentSet}
    (h : s ∈ circuit.candidatesOfSize k) : s.size = k := by
  obtain ⟨c, hc, rfl⟩ := List.mem_map.mp h
  rw [size_ofList (circuit.nodup_ids.sublist (sublist_of_mem_combinations hc))]
  exact length_of_mem_combinations hc

/-- The candidates of one size come in the lexicographic order of their places. -/
theorem pairwise_candidatesOfSize (k : Nat) :
    (circuit.candidatesOfSize k).Pairwise circuit.AsksBefore := by
  have hlex : (circuit.candidatesOfSize k).Pairwise fun s t =>
      List.Lex (· < ·) (circuit.places s) (circuit.places t) := by
    rw [candidatesOfSize_eq_map, List.pairwise_map]
    refine (pairwise_lex_combinations List.pairwise_lt_range k).imp_of_mem fun hc hd h => ?_
    rw [places_ofList (sublist_of_mem_combinations hc),
      places_ofList (sublist_of_mem_combinations hd)]
    exact h
  refine hlex.imp_of_mem fun hs ht h => Or.inr ⟨?_, h⟩
  rw [size_of_mem_candidatesOfSize hs, size_of_mem_candidatesOfSize ht]

/-- The candidates come by increasing size and then in the order of their places. -/
theorem pairwise_candidates (circuit : Circuit) :
    circuit.candidates.Pairwise circuit.AsksBefore := by
  refine List.pairwise_flatMap.mpr ⟨fun k _ => pairwise_candidatesOfSize k, ?_⟩
  refine (List.pairwise_lt_range' 1).imp fun hjk s hs t ht => Or.inl ?_
  rw [size_of_mem_candidatesOfSize hs, size_of_mem_candidatesOfSize ht]
  exact hjk

theorem length_candidates (circuit : Circuit) :
    circuit.candidates.length = 2 ^ circuit.size - 1 := by
  unfold candidates
  rw [← length_ids, ← length_flatMap_combinations circuit.ids, List.length_flatMap,
    List.length_flatMap]
  simp only [candidatesOfSize, List.length_map]

end Circuit

/-! ### The state of the oracle -/

namespace Oracle

variable {σ : Type u} (oracle : Oracle σ) (circuit : Circuit) (observations : List Observation)

/-- The state of an oracle after it was asked about some sets in turn. -/
def stateAfter (asked : List ComponentSet) (state : σ) : σ :=
  asked.foldl (fun state s => (oracle.ask (.assuming circuit observations s) state).state) state

variable {oracle circuit observations} {verdict : ComponentSet → Verdict} {l : List ComponentSet}

/-- If no query fails then the oracle is asked about all candidates, and nothing else. -/
theorem state_askAll
    (h : ∀ c ∈ l, ∀ state, (oracle.ask (.assuming circuit observations c) state).verdict =
      .ok (verdict c)) (state : σ) :
    (oracle.askAll circuit observations l state).2 =
      oracle.stateAfter circuit observations l state := by
  induction l generalizing state with
  | nil => rfl
  | cons c rest ih =>
      rw [askAll_cons_of_verdict (h c List.mem_cons_self state)]
      exact ih (fun d hd => h d (List.mem_cons_of_mem c hd)) _

end Oracle

/-! ### The extraction by any oracle -/

section Answered

variable {σ : Type u} {oracle : Oracle σ} {circuit : Circuit} {observations : List Observation}
  {verdict : ComponentSet → Verdict}

theorem state_extract_of_verdict (extractor : Extractor σ)
    (h : ∀ c ∈ circuit.candidates, ∀ state,
      (oracle.ask (.assuming circuit observations c) state).verdict = .ok (verdict c)) :
    (extractor.extract oracle circuit observations).extractor.state =
      oracle.stateAfter circuit observations circuit.candidates extractor.state := by
  unfold Extractor.extract
  simp only [Oracle.askSizes_eq_askAll]
  exact Oracle.state_askAll h extractor.state

end Answered

/-- An extraction whose queries are closed asks about each candidate once. -/
theorem length_answers_extract {circuit : Circuit} {observations : List Observation}
    (extractor : Extractor Unit)
    (h : ∀ c ∈ circuit.candidates, (Query.assuming circuit observations c).Closed) :
    (extractor.extract solverOracle circuit observations).answers.length =
      2 ^ circuit.size - 1 := by
  rw [← circuit.length_candidates, ← candidate_of_map_eq (map_answers_extract extractor h),
    List.length_map]

/-- The check of the number of queries passes if there was one for each non-empty set. -/
theorem passesCountCheck_of_length {σ : Type u} {extraction : Extraction σ} {circuit : Circuit}
    (h : extraction.answers.length = 2 ^ circuit.size - 1) :
    extraction.passesCountCheck circuit = true := by
  unfold Extraction.passesCountCheck
  rw [h, Bool.or_eq_true, decide_eq_true_eq, beq_iff_eq]
  by_cases hsize : circuit.size < 64
  · refine Or.inr (UInt64.toNat_inj.mp ?_)
    have hlt : 2 ^ circuit.size < 2 ^ 64 := Nat.pow_lt_pow_right (by decide) hsize
    have hshift : ((1 : UInt64) <<< UInt64.ofNat circuit.size).toNat = 2 ^ circuit.size := by
      rw [UInt64.toNat_shiftLeft, UInt64.toNat_ofNat', Nat.mod_mod_of_dvd _ (by decide),
        Nat.mod_eq_of_lt hsize, UInt64.toNat_one, Nat.one_shiftLeft, Nat.mod_eq_of_lt hlt]
    have hpos : 1 ≤ 2 ^ circuit.size := Nat.one_le_two_pow
    rw [UInt64.toNat_sub_of_le, hshift, UInt64.toNat_ofNat', UInt64.toNat_one,
      Nat.mod_eq_of_lt (by omega)]
    rw [UInt64.le_iff_toNat_le, hshift]
    exact hpos
  · exact Or.inl (Nat.le_of_not_lt hsize)

/-- The components that a query fixes to be healthy. -/
def Query.healthy (q : Query) : ComponentSet :=
  ofList ((q.faults.flags.filter fun f => !f.faulty).map FaultFlag.component)

theorem Query.healthy_assuming {circuit : Circuit} {observations : List Observation}
    {s : ComponentSet} (h : s ⊆ circuit.all) : (assuming circuit observations s).healthy = s := by
  refine ext_mem fun i => ?_
  unfold healthy
  rw [mem_ofList, List.mem_map]
  constructor
  · rintro ⟨⟨i, faulty⟩, hflag, rfl⟩
    obtain ⟨hflag, hfaulty⟩ := List.mem_filter.mp hflag
    have hfalse : faulty = false := by simpa using hfaulty
    rw [hfalse] at hflag
    exact (healthy_mem_flags_assuming.mp hflag).2
  · intro hi
    have hflag : ⟨i, false⟩ ∈ (assuming circuit observations s).faults.flags :=
      healthy_mem_flags_assuming.mpr ⟨Circuit.mem_all.mp (h i hi), hi⟩
    exact ⟨_, List.mem_filter.mpr ⟨hflag, rfl⟩, rfl⟩

/-- **The extraction is exact for any oracle** that has a verdict on every non-empty set of
components, in whatever state it is: the conflict sets are the minimal sets that it rejects, by size
and then lexicographically. The oracle was asked about each non-empty set once and about nothing
else, smaller sets first and those of one size in the lexicographic order of declaration; its state
is the one that these questions lead to. So the number of queries is `2 ^ n - 1`, and the check of
it at the end passes. -/
theorem extract_exact {σ : Type u} (oracle : Oracle σ) (extractor : Extractor σ)
    (circuit : Circuit) (observations : List Observation) (verdict : ComponentSet → Verdict)
    (h : ∀ s : ComponentSet, s ≠ ∅ → s ⊆ circuit.all → ∀ state,
      (oracle.ask (.assuming circuit observations s) state).verdict = .ok (verdict s)) :
    let extraction := extractor.extract oracle circuit observations
    let asked := extraction.answers.map Answer.candidate
    (∃ conflicts, extraction.outcome = .ok conflicts ∧
      Enumerates (MinimalFor fun s => s ≠ ∅ ∧ s ⊆ circuit.all ∧ verdict s = .unsatisfiable)
        conflicts) ∧
    extraction.extractor.state =
      oracle.stateAfter circuit observations asked extractor.state ∧
    (∀ s, s ∈ asked ↔ s ≠ ∅ ∧ s ⊆ circuit.all) ∧ asked.Nodup ∧
    asked.Pairwise circuit.AsksBefore ∧
    asked.length = 2 ^ circuit.size - 1 ∧
    extraction.extractor.statistics.numQueries =
      extractor.statistics.numQueries + (2 ^ circuit.size - 1) ∧
    extraction.passesCountCheck circuit = true := by
  intro extraction asked
  have hcandidates : ∀ c ∈ circuit.candidates, ∀ state,
      (oracle.ask (.assuming circuit observations c) state).verdict = .ok (verdict c) := by
    intro c hc
    obtain ⟨hne, hsub⟩ := Circuit.mem_candidates.mp hc
    exact h c hne hsub
  have hanswers := map_answers_extract_of_verdict extractor hcandidates
  have hasked : asked = circuit.candidates := candidate_of_map_eq hanswers
  have hlength : extraction.answers.length = 2 ^ circuit.size - 1 := by
    rw [← circuit.length_candidates, ← hasked, List.length_map]
  refine ⟨⟨_, conflictsOf_of_map_eq hanswers, ?_⟩, ?_⟩
  · refine enumerates_retainMinimal (fun s hs => ?_) fun m hm => ?_
    · obtain ⟨hs, hrejected⟩ := List.mem_filter.mp hs
      obtain ⟨hne, hsub⟩ := Circuit.mem_candidates.mp hs
      exact ⟨hne, hsub, of_decide_eq_true hrejected⟩
    · obtain ⟨hne, hsub, hrejected⟩ := hm.holds
      refine List.mem_filter.mpr ⟨Circuit.mem_candidates.mpr ⟨hne, hsub⟩, ?_⟩
      exact decide_eq_true hrejected
  · rw [hasked]
    refine ⟨state_extract_of_verdict extractor hcandidates, fun s => Circuit.mem_candidates,
      circuit.nodup_candidates, circuit.pairwise_candidates, circuit.length_candidates, ?_,
      passesCountCheck_of_length hlength⟩
    rw [← hlength]
    rfl

/-- An oracle that rejects every pair, and nothing else, and remembers what it was asked about. The
components are not declared in the order of their identifiers. -/
theorem extract_exact_pairs :
    let oracle : Oracle (List ComponentSet) := ⟨fun q asked =>
      ⟨.ok (.ofSatisfiable (q.healthy.size != 2)), asked ++ [q.healthy], []⟩⟩
    let circuit := Circuit.ofComponents [⟨"C", .and, .input "x", .output "A"⟩,
      ⟨"A", .or, .input "x", .input "y"⟩, ⟨"B", .xor, .output "Z", .output "B"⟩]
    let extraction := Extractor.extract ⟨[], {}⟩ oracle circuit []
    Enumerates (MinimalFor fun s => s ≠ ∅ ∧ s ⊆ circuit.all ∧
        Verdict.ofSatisfiable (s.size != 2) = .unsatisfiable)
        [ofList ["A", "B"], ofList ["A", "C"], ofList ["B", "C"]] ∧
      extraction.extractor.state = [ofList ["C"], ofList ["A"], ofList ["B"], ofList ["C", "A"],
        ofList ["C", "B"], ofList ["A", "B"], ofList ["A", "B", "C"]] ∧
      extraction.extractor.statistics.numQueries = 7 := by
  intro oracle circuit extraction
  obtain ⟨⟨conflicts, houtcome, hconflicts⟩, hstate, _, _, _, _, hqueries, _⟩ :=
    extract_exact oracle ⟨[], {}⟩ circuit [] (fun s => .ofSatisfiable (s.size != 2)) (by
      intro s _ hs asked
      change Except.ok (Verdict.ofSatisfiable _) = _
      rw [Query.healthy_assuming hs])
  refine ⟨?_, hstate.trans (by decide +kernel), hqueries.trans (by decide +kernel)⟩
  have hvalue : extraction.outcome.toOption =
      some [ofList ["A", "B"], ofList ["A", "C"], ofList ["B", "C"]] := by
    decide +kernel
  rw [houtcome] at hvalue
  rw [Option.some.inj hvalue] at hconflicts
  exact hconflicts

end CircuitDiagnosis
