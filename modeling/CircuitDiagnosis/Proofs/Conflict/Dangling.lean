import CircuitDiagnosis.Proofs.Conflict.Calls
import CircuitDiagnosis.Proofs.Oracle.References

/-!
# Extraction under dangling references

Whether a query about a candidate dangles does not depend on the candidate, since the flags of a
healthy subset never dangle. So an extraction by the solver fails on its first query or not at all
(`extract_of_dangling`), and its first candidate consists of the first component alone
(`Circuit.exists_candidates_eq_cons`).
-/

namespace CircuitDiagnosis

open Std OrdSet

universe u

/-- The first candidate is the first component alone. -/
theorem Circuit.exists_candidates_eq_cons {circuit : Circuit} {first : Component}
    {rest : List Component} (h : circuit.components = first :: rest) :
    ∃ more, circuit.candidates = ofList [first.id] :: more := by
  have hsize : circuit.size = rest.length + 1 := by
    unfold size
    rw [h, List.length_cons]
  have hids : circuit.ids = first.id :: rest.map Component.id := by
    unfold ids
    rw [h, List.map_cons]
  unfold candidates candidatesOfSize
  rw [hsize, hids, List.range'_succ, List.flatMap_cons, combinations, combinations]
  exact ⟨_, rfl⟩

/-- If the query about the first candidate fails then it is the only one. -/
theorem extract_of_error {σ : Type u} {oracle : Oracle σ} {circuit : Circuit}
    {observations : List Observation} {extractor : Extractor σ} {candidate : ComponentSet}
    {more : List ComponentSet} {cause : OracleError}
    (hcandidates : circuit.candidates = candidate :: more)
    (h : (oracle.ask (.assuming circuit observations candidate) extractor.state).verdict =
      .error cause) :
    let call := extractor.extract oracle circuit observations
    call.answers.map Answer.candidate = [candidate] ∧ call.outcome = .error ⟨candidate, cause⟩ := by
  intro call
  have hanswers : call.answers =
      (oracle.askAll circuit observations circuit.candidates extractor.state).1 :=
    congrArg Prod.fst (oracle.askSizes_eq_askAll circuit observations _ extractor.state)
  rw [hcandidates, Oracle.askAll_cons_of_error _ _ _ h] at hanswers
  have houtcome : call.outcome = conflictsOf call.answers := rfl
  rw [houtcome, hanswers]
  exact ⟨rfl, rfl⟩

/-- An extraction by the solver fails on the first query or not at all. -/
theorem extract_of_dangling {circuit : Circuit} {observations : List Observation}
    {first : Component} {rest : List Component} (hfirst : circuit.components = first :: rest)
    (extractor : Extractor Unit) (h : DanglingSignal circuit observations) :
    ∃ cause, (Query.assuming circuit observations (ofList [first.id])).verdict = .error cause ∧
      let call := extractor.extract solverOracle circuit observations
      call.answers.map Answer.candidate = [ofList [first.id]] ∧
        call.outcome = .error ⟨ofList [first.id], cause⟩ := by
  obtain ⟨more, hcandidates⟩ := Circuit.exists_candidates_eq_cons hfirst
  obtain ⟨cause, hcause⟩ := Query.exists_dangling?_assuming_iff.mpr h
  have hverdict := (Query.verdict_eq_error_iff _).mpr hcause
  refine ⟨cause, hverdict, extract_of_error hcandidates ?_⟩
  rw [verdict_ask_solverOracle]
  exact hverdict

/-- Without dangling signals an extraction by the solver does not fail. -/
theorem exists_outcome_extract_of_not_dangling {circuit : Circuit}
    {observations : List Observation} (extractor : Extractor Unit)
    (h : ¬ DanglingSignal circuit observations) :
    ∃ conflicts, (extractor.extract solverOracle circuit observations).outcome = .ok conflicts := by
  refine ⟨_, outcome_extract_of_closed extractor fun c _ => ?_⟩
  rw [← Query.dangling?_eq_none_iff, Option.eq_none_iff_forall_ne_some]
  exact fun e he => h (Query.exists_dangling?_assuming_iff.mp ⟨e, he⟩)

/-- **The oracle reports the first dangling reference and nothing else.** It fails exactly if an
input, an observation or a fixed flag names a component that the circuit does not have, with the
error of the first such place: inputs come before observations, and these before flags. A healthy
subset never fixes such a flag, whatever it contains. So an extraction from a circuit with
components fails exactly if an input or an observation dangles, and then its only query was about
the first component alone. -/
theorem oracle_reports_first_dangling (circuit : Circuit) (observations : List Observation)
    (faults : FaultAssignment) (state : Unit) :
    let verdict := (solverOracle.ask ⟨circuit, observations, faults⟩ state).verdict
    ((∃ e, verdict = .error e) ↔
      DanglingSignal circuit observations ∨ ∃ f ∈ faults.flags, f.component ∉ circuit.ids) ∧
    (∀ e, verdict = .error e ↔
      ∃ r, Query.FirstDangling ⟨circuit, observations, faults⟩ r ∧ e = r.error) ∧
    (∀ healthy i, (solverOracle.ask (.assuming circuit observations healthy) state).verdict ≠
      .error (.unknownFaultFlag i)) ∧
    ∀ (extractor : Extractor Unit) (first : Component) (rest : List Component),
      circuit.components = first :: rest →
      let call := extractor.extract solverOracle circuit observations
      ((∃ e, call.outcome = .error e) ↔ DanglingSignal circuit observations) ∧
      ∀ e, call.outcome = .error e →
        e.candidate = ofList [first.id] ∧
        (solverOracle.ask (.assuming circuit observations e.candidate) state).verdict =
          .error e.cause ∧
        call.answers.map Answer.candidate = [e.candidate] ∧
        call.extractor.statistics.numQueries = extractor.statistics.numQueries + 1 := by
  intro verdict
  have hverdict : ∀ e, verdict = .error e ↔
      Query.dangling? ⟨circuit, observations, faults⟩ = some e := by
    intro e
    rw [← Query.verdict_eq_error_iff, ← verdict_ask_solverOracle _ state]
  refine ⟨?_, fun e => (hverdict e).trans (Query.dangling?_eq_some_iff _), ?_, ?_⟩
  · exact (exists_congr hverdict).trans (Query.exists_dangling?_iff _)
  · intro healthy i
    rw [verdict_ask_solverOracle, ne_eq, Query.verdict_eq_error_iff]
    exact Query.dangling?_assuming_ne
  · intro extractor first rest hfirst call
    by_cases h : DanglingSignal circuit observations
    · obtain ⟨cause, hcause, hasked, houtcome⟩ := extract_of_dangling hfirst extractor h
      refine ⟨⟨fun _ => h, fun _ => ⟨_, houtcome⟩⟩, fun e he => ?_⟩
      cases houtcome.symm.trans he
      rw [verdict_ask_solverOracle]
      refine ⟨rfl, hcause, hasked, ?_⟩
      have hlength := congrArg List.length hasked
      rw [List.length_map] at hlength
      exact congrArg (extractor.statistics.numQueries + ·) hlength
    · obtain ⟨conflicts, houtcome⟩ := exists_outcome_extract_of_not_dangling extractor h
      have hno : ∀ e, call.outcome ≠ .error e := by
        intro e he
        cases houtcome.symm.trans he
      exact ⟨⟨fun ⟨e, he⟩ => absurd he (hno e), fun hd => absurd hd h⟩,
        fun e he => absurd he (hno e)⟩

/-- A component whose second input dangles, before another one, an observation and a flag that do.
The components are not declared in the order of their identifiers. -/
theorem oracle_reports_first_dangling_second_input :
    let circuit := Circuit.ofComponents [⟨"B", .and, .output "A", .output "Y"⟩,
      ⟨"A", .or, .output "Z", .output "B"⟩]
    let observations : List Observation := [⟨.output "B", true⟩, ⟨.output "Q", false⟩]
    let faults := FaultAssignment.empty.setHealthy "R"
    let call := Extractor.extract ⟨(), {}⟩ solverOracle circuit observations
    (solverOracle.ask ⟨circuit, observations, faults⟩ ()).verdict =
        .error (.unknownInput "B" "Y") ∧
      ∃ e, call.outcome = .error e ∧ e.candidate = ofList ["B"] ∧
        e.cause = .unknownInput "B" "Y" ∧
        call.answers.map Answer.candidate = [ofList ["B"]] ∧
        call.extractor.statistics.numQueries = 1 := by
  intro circuit observations faults call
  have hreads : circuit.Reads "B" "Y" := ⟨_, List.mem_cons_self, rfl, by decide⟩
  have hdangling : DanglingSignal circuit observations := Or.inl ⟨"B", "Y", hreads, by decide⟩
  obtain ⟨_, hfirst, _, hextract⟩ := oracle_reports_first_dangling circuit observations faults ()
  obtain ⟨hfails, herror⟩ := hextract ⟨(), {}⟩ _ _ rfl
  refine ⟨(hfirst _).mpr ⟨.input "B" "Y", ⟨[.input "B" "A"], _, rfl, ?_, by decide⟩, rfl⟩, ?_⟩
  · intro x hx
    rw [List.mem_singleton.mp hx]
    decide
  · obtain ⟨e, he⟩ := hfails.mpr hdangling
    obtain ⟨hcandidate, hcause, hasked, hqueries⟩ := herror e he
    rw [hcandidate] at hcause hasked
    have hvalue : (solverOracle.ask (.assuming circuit observations (ofList ["B"])) ()).verdict =
        .error (.unknownInput "B" "Y") := by decide +kernel
    exact ⟨e, he, hcandidate, Except.error.inj (hcause.symm.trans hvalue), hasked, hqueries⟩

end CircuitDiagnosis
