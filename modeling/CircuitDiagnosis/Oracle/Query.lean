import CircuitDiagnosis.Circuit.FaultAssignment

/-!
# Queries

A query asks whether a circuit, with some health flags fixed, can behave as observed. What that
means is said by valuations: truth values for all signals and all health flags. A healthy component
computes its gate function, a faulty one may do anything. `Query.Consistent` is the question that
an oracle decides. `Query.dangling?` finds the first reference to a component that the circuit does
not have.
-/

namespace CircuitDiagnosis

/-- A circuit, what was observed of it, and what is fixed about the health of its components. -/
structure Query where
  circuit : Circuit
  observations : List Observation
  faults : FaultAssignment

/-- Truth values for all signals and for whether each component is faulty. -/
structure Valuation where
  signal : Signal → Bool
  faulty : ComponentId → Bool

namespace Valuation

variable (v : Valuation)

/-- The component is faulty, or its output is what its gate computes of its inputs. -/
def Obeys (c : Component) : Prop :=
  v.faulty c.id = true ∨
    v.signal c.output = c.kind.evaluate (v.signal c.first) (v.signal c.second)

/-- The observed signal has the observed value. -/
def Shows (o : Observation) : Prop := v.signal o.signal = o.value

/-- Every component obeys, every observation shows, and every fixed flag has its value. -/
structure Models (q : Query) : Prop where
  obeys : ∀ c ∈ q.circuit.components, v.Obeys c
  shows : ∀ o ∈ q.observations, v.Shows o
  flags : ∀ f ∈ q.faults.flags, v.faulty f.component = f.faulty

end Valuation

namespace Query

/-- Some truth values agree with the circuit, the observations and the fixed flags. -/
def Consistent (q : Query) : Prop := ∃ v : Valuation, v.Models q

/-- The query in which exactly the members of a set are healthy. -/
def assuming (circuit : Circuit) (observations : List Observation) (healthy : ComponentSet) :
    Query :=
  ⟨circuit, observations, .healthySubset circuit healthy⟩

/-- The query in which exactly the members of a set are faulty. -/
def blaming (circuit : Circuit) (observations : List Observation) (faulty : ComponentSet) : Query :=
  assuming circuit observations (circuit.all.diff faulty)

end Query

/-- Why an oracle gives no verdict. -/
inductive OracleError where
  /-- A component reads the output of a component that does not exist. -/
  | unknownInput (component unknown : ComponentId)
  /-- The output of a component that does not exist was observed. -/
  | unknownObserved (component : ComponentId)
  /-- A flag was fixed of a component that does not exist. -/
  | unknownFaultFlag (component : ComponentId)
  /-- The solver itself failed. -/
  | solver (details : String)
  deriving DecidableEq, Repr

/-- The wording of an error. -/
def OracleError.message : OracleError → String
  | .unknownInput component unknown =>
    s!"Component {component} reads the output of unknown component {unknown}"
  | .unknownObserved component =>
    s!"An observation refers to the output of unknown component {component}"
  | .unknownFaultFlag component =>
    s!"The fault flag of unknown component {component} was assigned"
  | .solver details => s!"The SAT solver failed, more details: {details}"

namespace Query

/-- The component that a signal names and the circuit lacks. -/
def unknown? (circuit : Circuit) : Signal → Option ComponentId
  | .input _ => none
  | .output id => if circuit.contains id then none else some id

variable (q : Query)

/-- The first input of a component that reads a component the circuit lacks. -/
def danglingInput? (c : Component) : Option OracleError :=
  (c.inputs.findSome? (unknown? q.circuit)).map (.unknownInput c.id)

/-- The first reference to a component that the circuit does not have: the inputs of the components
come first, then the observations, then the fixed flags. -/
def dangling? : Option OracleError :=
  (q.circuit.components.findSome? q.danglingInput?).or <|
    (q.observations.findSome? fun o => (unknown? q.circuit o.signal).map .unknownObserved).or <|
      q.faults.flags.findSome? fun f =>
        if q.circuit.contains f.component then none else some (.unknownFaultFlag f.component)

end Query

end CircuitDiagnosis
