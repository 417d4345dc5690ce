import CircuitDiagnosis.CircuitFile.Parser

/-!
# Writing circuit files

A circuit with its observations as the text of a circuit file: the gates in their order, the wiring
component by component, the observed inputs, and the observed outputs.
-/

namespace CircuitDiagnosis.CircuitFile

/-- The word of a gate kind. -/
def gateWord : GateKind → String
  | .and => "ANDG"
  | .or => "ORG"
  | .xor => "XORG"

theorem gateKind?_gateWord (kind : GateKind) : gateKind? (gateWord kind) = some kind := by
  cases kind <;> rfl

/-- The digit of a value. -/
def bit (value : Bool) : String := if value then "1" else "0"

/-- The line that declares a component. -/
def gateLine (c : Component) : String := gateWord c.kind ++ "(" ++ c.id ++ ")"

/-- The line that wires an input of a component to the output of a component, if it is wired. -/
def wireLine? (c : Component) (pin : Pin) : Signal → Option String
  | .input _ => none
  | .output source => some (pin.inputName c.id ++ "=" ++ (Signal.output source).text)

/-- The lines that wire the inputs of a component. -/
def wireLines (c : Component) : List String :=
  (wireLine? c .first c.first).toList ++ (wireLine? c .second c.second).toList

/-- The line of an observation. -/
def observationLine (o : Observation) : String := o.signal.text ++ "=" ++ bit o.value

/-- Whether an input of the circuit was observed. -/
def ofInput (o : Observation) : Bool :=
  match o.signal with
  | .input _ => true
  | .output _ => false

/-- The text of a section with the given lines. -/
def renderSection (s : Section) (lines : List String) : String :=
  s.name ++ ":\n" ++ String.join (lines.map (· ++ "\n")) ++ "END" ++ s.name ++ "\n"

/-- The text of a circuit with its observations. -/
def render (c : ObservedCircuit) : String :=
  renderSection .components (c.circuit.components.map gateLine) ++
    renderSection .behaviour (c.circuit.components.flatMap wireLines) ++
    renderSection .observations ((c.observations.filter ofInput).map observationLine) ++
    renderSection .outObservations
      ((c.observations.filter fun o => !ofInput o).map observationLine)

end CircuitDiagnosis.CircuitFile
