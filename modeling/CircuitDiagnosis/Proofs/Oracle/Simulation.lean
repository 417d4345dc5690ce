import CircuitDiagnosis.Proofs.Circuit.Propagation

/-!
# Simulation decides the query about a healthy circuit

In a circuit without cycles whose inputs were all observed, the values of all signals are settled as
soon as every component is healthy: those of the inputs are the observed ones, and the gates
determine the others (`consistent_assuming_all_iff_simulate`). So the solver, which looks for any
values that fit, answers what a simulation would (`satisfiable_iff_simulate`).
-/

namespace CircuitDiagnosis

/-- The values of the inputs of a circuit that some observations tell; one that was not observed is
false. -/
def observedInputs (observations : List Observation) (name : String) : Bool :=
  decide (⟨.input name, true⟩ ∈ observations)

variable {circuit : Circuit} {observations : List Observation}

/-- What was observed of an input is its value. -/
theorem observedInputs_eq {name : String} {value : Bool}
    (hagree : ⟨.input name, true⟩ ∈ observations → ⟨.input name, false⟩ ∉ observations)
    (h : ⟨.input name, value⟩ ∈ observations) : observedInputs observations name = value := by
  cases value with
  | true => exact decide_eq_true h
  | false => exact decide_eq_false fun htrue => hagree htrue h

section Acyclic

variable (hwiring : circuit.Closed) (hacyclic : circuit.Acyclic)
  (hread : ∀ c ∈ circuit.components, ∀ name, .input name ∈ c.inputs →
    ∃ value, ⟨.input name, value⟩ ∈ observations)
  (hagree : ∀ name, ⟨.input name, true⟩ ∈ observations → ⟨.input name, false⟩ ∉ observations)

include hwiring hacyclic hread hagree

/-- Values that are computed by all gates and show what was observed of the inputs are simulated. -/
theorem output_eq_simulate {signal : Signal → Bool}
    (hcomputes : ∀ c ∈ circuit.components, c.Computes signal)
    (hshows : ∀ name value, ⟨.input name, value⟩ ∈ observations → signal (.input name) = value) :
    ∀ i ∈ circuit.ids,
      signal (.output i) = circuit.simulate (observedInputs observations) (.output i) := by
  refine hacyclic.output_eq_of_computes hwiring hcomputes
    (fun c hc => hacyclic.computes_simulate _ hc) fun c hc name hname => ?_
  obtain ⟨value, hvalue⟩ := hread c hc name hname
  rw [Circuit.simulate_input, hshows name value hvalue, observedInputs_eq (hagree name) hvalue]

/-- All components can be healthy exactly if the simulated outputs are the observed ones. -/
theorem consistent_assuming_all_iff_simulate
    (hobserved : ∀ o ∈ observations, ∀ i, o.signal = .output i → i ∈ circuit.ids) :
    (Query.assuming circuit observations circuit.all).Consistent ↔
      ∀ i value, ⟨.output i, value⟩ ∈ observations →
        circuit.simulate (observedInputs observations) (.output i) = value := by
  rw [Query.consistent_assuming_all_iff]
  constructor
  · rintro ⟨signal, hcomputes, hshows⟩ i value ho
    have hsimulated := output_eq_simulate hwiring hacyclic hread hagree hcomputes
      (fun name value hname => hshows _ hname) i (hobserved _ ho i rfl)
    rw [← hsimulated]
    exact hshows _ ho
  · intro houtputs
    refine ⟨circuit.simulate (observedInputs observations),
      fun c hc => hacyclic.computes_simulate _ hc, ?_⟩
    rintro ⟨s, value⟩ ho
    cases s with
    | input name =>
        rw [Circuit.simulate_input]
        exact observedInputs_eq (hagree name) ho
    | output i => exact houtputs i value ho

end Acyclic

/-- **Of a circuit without cycles the solver answers what a simulation would.** Let a circuit refer
to nothing outside of it, let each input that it reads be observed, no input with both values, and
let the observed outputs be outputs of its components. The solver accepts that all components are
healthy if and only if each observed output has the value that the gates compute from the observed
inputs, and it rejects it otherwise. The simulated values are the only ones that agree with all
gates and with the observed inputs. -/
theorem satisfiable_iff_simulate (circuit : Circuit) (observations : List Observation)
    (hwiring : circuit.Closed) (hacyclic : circuit.Acyclic)
    (hread : ∀ c ∈ circuit.components, ∀ name, .input name ∈ c.inputs →
      ∃ value, ⟨.input name, value⟩ ∈ observations)
    (hagree : ∀ name, ⟨.input name, true⟩ ∈ observations → ⟨.input name, false⟩ ∉ observations)
    (hobserved : ∀ o ∈ observations, ∀ i, o.signal = .output i → i ∈ circuit.ids) :
    let values := circuit.simulate (observedInputs observations)
    let reply := solverOracle.ask (.assuming circuit observations circuit.all) ()
    (reply.verdict = .ok .satisfiable ↔
      ∀ i value, ⟨.output i, value⟩ ∈ observations → values (.output i) = value) ∧
    (reply.verdict = .ok .unsatisfiable ↔
      ∃ i value, ⟨.output i, value⟩ ∈ observations ∧ values (.output i) ≠ value) ∧
    (∀ c ∈ circuit.components, c.Computes values) ∧
    (∀ name value, ⟨.input name, value⟩ ∈ observations → values (.input name) = value) ∧
    ∀ signal : Signal → Bool, (∀ c ∈ circuit.components, c.Computes signal) →
      (∀ name value, ⟨.input name, value⟩ ∈ observations → signal (.input name) = value) →
        ∀ i ∈ circuit.ids, signal (.output i) = values (.output i) := by
  intro values reply
  have hclosed : (Query.assuming circuit observations circuit.all).Closed :=
    Query.closed_assuming hwiring hobserved
  have hsimulate := consistent_assuming_all_iff_simulate hwiring hacyclic hread hagree hobserved
  refine ⟨?_, ?_, fun c hc => hacyclic.computes_simulate _ hc, fun name value hname => ?_, ?_⟩
  · exact (Query.ask_eq_satisfiable_iff hclosed ()).trans hsimulate
  · rw [Query.ask_eq_unsatisfiable_iff hclosed (), hsimulate]
    push Not
    exact Iff.rfl
  · exact (Circuit.simulate_input _ name).trans (observedInputs_eq (hagree name) hname)
  · exact fun signal => output_eq_simulate hwiring hacyclic hread hagree

/-- Three gates of which one feeds the two others, not declared in the order in which values go
through them. What was seen of one gate, twice, is what it should be. -/
theorem satisfiable_iff_simulate_shared :
    let circuit := Circuit.ofComponents [⟨"S", .xor, .output "P", .input "z"⟩,
      ⟨"G", .and, .output "S", .output "P"⟩, ⟨"P", .xor, .input "x", .input "y"⟩]
    let observations : List Observation := [⟨.output "S", false⟩, ⟨.input "z", true⟩,
      ⟨.input "x", true⟩, ⟨.input "y", false⟩, ⟨.output "S", false⟩]
    circuit.Acyclic ∧
      (solverOracle.ask (.assuming circuit observations circuit.all) ()).verdict =
        .ok .satisfiable := by
  intro circuit observations
  have hacyclic : circuit.Acyclic := by
    refine Circuit.acyclic_of_rank (fun i => ["P", "S", "G"].idxOf i) ?_
    decide
  have hread : ∀ c ∈ circuit.components, ∀ s ∈ c.inputs, s = .input s.name →
      ⟨.input s.name, true⟩ ∈ observations ∨ ⟨.input s.name, false⟩ ∈ observations := by
    decide
  have hagree : ∀ o ∈ observations, o = ⟨.input o.signal.name, true⟩ →
      ⟨.input o.signal.name, false⟩ ∉ observations := by
    decide
  have hobserved : ∀ o ∈ observations, Query.unknown? circuit o.signal = none := by decide
  obtain ⟨hsatisfiable, _⟩ := satisfiable_iff_simulate circuit observations
    (Query.circuit_closed_iff.mpr (by decide)) hacyclic
    (fun c hc name hname => (hread c hc (.input name) hname rfl).elim (⟨_, ·⟩) (⟨_, ·⟩))
    (fun name hname => hagree _ hname rfl)
    fun o ho => Query.unknown?_eq_none_iff.mp (hobserved o ho)
  refine ⟨hacyclic, hsatisfiable.mpr fun i value ho => ?_⟩
  have houtputs : ∀ o ∈ observations, o.signal = .output o.signal.name →
      circuit.simulate (observedInputs observations) o.signal = o.value := by
    decide
  exact houtputs ⟨.output i, value⟩ ho rfl

end CircuitDiagnosis
