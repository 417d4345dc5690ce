import CircuitDiagnosis.Proofs.Circuit.FaultAssignment
import CircuitDiagnosis.Proofs.Oracle.Encoding

/-!
# Consistency by signals

The truth values of the fault flags can be left out of the question whether a query is consistent:
what counts are values of the signals for which the components that are fixed to be healthy compute
their gate functions (`Query.consistent_iff`). Hence only the healthy flags matter, and a query with
fewer of them and fewer observations is consistent if the larger one is (`Query.Consistent.mono`).

For the queries that assume exactly a set to be healthy this gives `Query.consistent_assuming_iff`
and, with nothing assumed, `Query.consistent_assuming_empty`.
-/

namespace CircuitDiagnosis

/-- The output of the component is what its gate computes of its inputs. -/
def Component.Computes (signal : Signal → Bool) (c : Component) : Prop :=
  signal c.output = c.kind.evaluate (signal c.first) (signal c.second)

namespace Query

/-- A query is consistent exactly if some values of the signals show what was observed while each
component that is fixed to be healthy computes its gate function. -/
theorem consistent_iff {q : Query} :
    q.Consistent ↔ ∃ signal : Signal → Bool,
      (∀ c ∈ q.circuit.components, ⟨c.id, false⟩ ∈ q.faults.flags → c.Computes signal) ∧
        ∀ o ∈ q.observations, signal o.signal = o.value := by
  constructor
  · rintro ⟨v, hv⟩
    refine ⟨v.signal, fun c hc hflag => ?_, hv.shows⟩
    rcases hv.obeys c hc with hfaulty | hcomputes
    · rw [hv.flags _ hflag] at hfaulty
      cases hfaulty
    · exact hcomputes
  · rintro ⟨signal, hcomputes, hshows⟩
    -- Everything that is not fixed to be healthy may as well be faulty.
    refine ⟨⟨signal, fun i => decide (⟨i, false⟩ ∉ q.faults.flags)⟩, ?_, hshows, ?_⟩
    · intro c hc
      by_cases hflag : ⟨c.id, false⟩ ∈ q.faults.flags
      · exact Or.inr (hcomputes c hc hflag)
      · exact Or.inl (decide_eq_true hflag)
    · intro f hf
      cases hfaulty : f.faulty with
      | true =>
          refine decide_eq_true fun hflag => ?_
          rw [FaultAssignment.eq_of_mem_flags hf hflag rfl] at hfaulty
          cases hfaulty
      | false =>
          have hflag : (⟨f.component, false⟩ : FaultFlag) ∈ q.faults.flags := by
            rw [← hfaulty]
            exact hf
          exact decide_eq_false fun hnot => hnot hflag

/-- Fewer healthy flags and fewer observations keep a query consistent. -/
theorem Consistent.mono {q r : Query} (h : q.Consistent) (hcircuit : r.circuit = q.circuit)
    (hflags : ∀ i, ⟨i, false⟩ ∈ r.faults.flags → ⟨i, false⟩ ∈ q.faults.flags)
    (hobservations : ∀ o ∈ r.observations, o ∈ q.observations) : r.Consistent := by
  obtain ⟨signal, hcomputes, hshows⟩ := consistent_iff.mp h
  refine consistent_iff.mpr ⟨signal, ?_, fun o ho => hshows o (hobservations o ho)⟩
  rw [hcircuit]
  exact fun c hc hflag => hcomputes c hc (hflags c.id hflag)

/-! ### Queries that assume a set healthy -/

variable {circuit : Circuit} {observations : List Observation} {healthy : ComponentSet}

theorem healthy_mem_flags_assuming {i : ComponentId} :
    ⟨i, false⟩ ∈ (assuming circuit observations healthy).faults.flags ↔
      i ∈ circuit.ids ∧ i ∈ healthy := by
  refine FaultAssignment.mem_flags_healthySubset.trans (and_congr_right fun _ => ?_)
  rw [← OrdSet.contains_iff]
  cases healthy.contains i <;> simp

theorem consistent_assuming_iff :
    (assuming circuit observations healthy).Consistent ↔ ∃ signal : Signal → Bool,
      (∀ c ∈ circuit.components, c.id ∈ healthy → c.Computes signal) ∧
        ∀ o ∈ observations, signal o.signal = o.value := by
  rw [consistent_iff]
  refine exists_congr fun signal => and_congr_left' ?_
  refine forall₂_congr fun c hc => ?_
  rw [healthy_mem_flags_assuming]
  exact imp_congr_left ⟨fun h => h.2, fun h => ⟨List.mem_map_of_mem hc, h⟩⟩

/-- All components can be healthy exactly if some values of the signals are computed by all gates
and show what was observed. -/
theorem consistent_assuming_all_iff :
    (assuming circuit observations circuit.all).Consistent ↔ ∃ signal : Signal → Bool,
      (∀ c ∈ circuit.components, c.Computes signal) ∧
        ∀ o ∈ observations, signal o.signal = o.value := by
  rw [consistent_assuming_iff]
  refine exists_congr fun signal => and_congr_left' (forall₂_congr fun c hc => ?_)
  exact imp_iff_right (OrdSet.mem_ofList.mpr (List.mem_map_of_mem hc))

/-- Assuming fewer components of the circuit healthy keeps a query consistent. -/
theorem Consistent.assuming_mono {s t : ComponentSet}
    (h : (assuming circuit observations t).Consistent)
    (hst : ∀ i ∈ circuit.ids, i ∈ s → i ∈ t) :
    (assuming circuit observations s).Consistent := by
  refine h.mono rfl (fun i hi => ?_) fun o ho => ho
  obtain ⟨hcircuit, his⟩ := healthy_mem_flags_assuming.mp hi
  exact healthy_mem_flags_assuming.mpr ⟨hcircuit, hst i hcircuit his⟩

/-- If nothing is assumed healthy, only contradictory observations are inconsistent. -/
theorem consistent_assuming_empty (circuit : Circuit)
    (h : ∀ s, ⟨s, true⟩ ∈ observations → ⟨s, false⟩ ∉ observations) :
    (assuming circuit observations ∅).Consistent := by
  refine consistent_assuming_iff.mpr ⟨fun s => decide (⟨s, true⟩ ∈ observations), ?_, ?_⟩
  · intro c _ hempty
    exact absurd hempty OrdSet.not_mem_empty
  · rintro ⟨s, value⟩ ho
    cases value with
    | true => exact decide_eq_true ho
    | false => exact decide_eq_false fun htrue => h s htrue ho

/-- Assuming components of the circuit healthy refers to nothing outside the circuit. -/
theorem closed_assuming (hwiring : circuit.Closed)
    (hobserved : ∀ o ∈ observations, ∀ i, o.signal = .output i → i ∈ circuit.ids) :
    (assuming circuit observations healthy).Closed :=
  ⟨hwiring, hobserved, fun _ hf => (FaultAssignment.mem_flags_healthySubset.mp hf).1⟩

end Query

end CircuitDiagnosis
