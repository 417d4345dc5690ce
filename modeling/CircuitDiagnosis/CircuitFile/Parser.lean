import CircuitDiagnosis.CircuitFile.Line
import CircuitDiagnosis.CircuitFile.Section
import CircuitDiagnosis.Circuit.Basic
import CircuitDiagnosis.Log.Event

/-!
# Reading circuit files

A circuit file declares components, connects their inputs and gives observations. An input that is
connected to a constant is an observed input of the circuit, named after its pin. Every component
needs exactly one line for each of its two inputs, in either of the sections for connections.

All sections are looked for before any line is read. The lines are read section by section, and the
first line at fault is reported; a line is judged against all declarations, a declaration against
the earlier ones. If every line is right, all components with a wrong number of connections are
reported.
-/

namespace CircuitDiagnosis

/-- A circuit and what was observed of it. -/
structure ObservedCircuit where
  circuit : Circuit
  observations : List Observation

namespace CircuitFile

/-- A component and the numbers of lines for its two inputs. -/
structure ConnectionCount where
  component : ComponentId
  first : Nat
  second : Nat
  deriving DecidableEq, Repr

/-- Why a text is no circuit file. -/
inductive ParseError where
  | missingSection (missing : Section)
  | unknownGate (kind : String)
  | malformedLine (line : String)
  | invalidValue (value : String)
  | duplicateComponent (id : ComponentId)
  | unknownComponent (line : String) (component : ComponentId)
  | invalidConnections (components : List ConnectionCount)
  deriving DecidableEq, Repr

/-- The wording of a wrong number of connections. -/
def ConnectionCount.message (c : ConnectionCount) : String :=
  s!"{c.component} has {c.first} IN1 and {c.second} IN2 connections, expected exactly one of each"

/-- The wording of an error. -/
def ParseError.message : ParseError → String
  | .missingSection missing => s!"missing {missing.name} section"
  | .unknownGate kind => s!"'{kind}' is not a gate kind, expected ANDG, ORG or XORG"
  | .malformedLine line => s!"'{line}' is malformed"
  | .invalidValue value => s!"'{value}' is not a boolean value, expected 0 or 1"
  | .duplicateComponent id => s!"component {id} is declared more than once"
  | .unknownComponent line component => s!"'{line}' refers to unknown component {component}"
  | .invalidConnections components =>
    "invalid component connections:\n" ++
      String.intercalate "\n" (components.map ConnectionCount.message)

/-! ### Declarations -/

/-- A declared component. -/
structure Declaration where
  id : ComponentId
  kind : GateKind
  deriving DecidableEq, Repr

/-- Whether a component is declared. -/
def isDeclared (declared : List Declaration) (id : ComponentId) : Bool :=
  declared.any fun d => d.id == id

/-- The gate kind of a word. -/
def gateKind? : String → Option GateKind
  | "ANDG" => some .and
  | "ORG" => some .or
  | "XORG" => some .xor
  | _ => none

/-- Reads a declaration that follows the declarations `earlier`. -/
def readDeclaration (earlier : List Declaration) (line : List Char) :
    Except ParseError Declaration :=
  match GateLine.read? line with
  | none => .error (.malformedLine (.ofList line))
  | some gate =>
    match gateKind? gate.kind with
    | none => .error (.unknownGate gate.kind)
    | some kind =>
      if isDeclared earlier gate.id then .error (.duplicateComponent gate.id)
      else .ok ⟨gate.id, kind⟩

/-- Reads the lines of the declarations. -/
def readDeclarations (lines : List (List Char)) : Except ParseError (List Declaration) :=
  lines.foldlM (fun earlier line => do return earlier ++ [← readDeclaration earlier line]) []

/-! ### Connections and observations -/

/-- The value of a digit. -/
def readValue : String → Except ParseError Bool
  | "0" => .ok false
  | "1" => .ok true
  | value => .error (.invalidValue value)

/-- What an input of a component is connected to. -/
inductive Source where
  | output (component : ComponentId)
  | constant (value : Bool)
  deriving DecidableEq, Repr

/-- An input of a component and what it is connected to. -/
structure Connection where
  pin : Pin
  component : ComponentId
  source : Source
  deriving DecidableEq, Repr

/-- The signal at the input. -/
def Connection.signal (c : Connection) : Signal :=
  match c.source with
  | .output component => .output component
  | .constant _ => .input (c.pin.inputName c.component)

/-- The observation that a constant makes. -/
def Connection.observation? (c : Connection) : Option Observation :=
  match c.source with
  | .output _ => none
  | .constant value => some ⟨c.signal, value⟩

/-- Reads what an input is connected to. -/
def readSource (declared : List Declaration) (line : List Char) (value : String) :
    Except ParseError Source :=
  match readOutput? value.toList with
  | some id =>
    if isDeclared declared id then .ok (.output id)
    else .error (.unknownComponent (.ofList line) id)
  | none => .constant <$> readValue value

/-- Reads the line of a connection. -/
def readConnection (declared : List Declaration) (line : List Char) :
    Except ParseError Connection :=
  match PinLine.read? line with
  | none => .error (.malformedLine (.ofList line))
  | some p => do
    let source ← readSource declared line p.value
    if isDeclared declared p.component then .ok ⟨p.pin, p.component, source⟩
    else .error (.unknownComponent (.ofList line) p.component)

/-- Reads the line of an observed output. -/
def readOutputObservation (declared : List Declaration) (line : List Char) :
    Except ParseError Observation :=
  match OutputLine.read? line with
  | none => .error (.malformedLine (.ofList line))
  | some o =>
    if isDeclared declared o.component then do
      let value ← readValue o.value
      return ⟨.output o.component, value⟩
    else .error (.unknownComponent (.ofList line) o.component)

/-! ### The circuit -/

/-- The signals that are connected to an input of a component. -/
def signalsAt (connections : List Connection) (component : ComponentId) (pin : Pin) :
    List Signal :=
  (connections.filter fun c => c.component == component && c.pin == pin).map Connection.signal

/-- The declared component with its inputs, if there is one signal for each. -/
def connected? (connections : List Connection) (d : Declaration) : Option Component :=
  match signalsAt connections d.id .first, signalsAt connections d.id .second with
  | [first], [second] => some ⟨d.id, d.kind, first, second⟩
  | _, _ => none

/-- The numbers of connections of a declared component. -/
def connectionCount (connections : List Connection) (d : Declaration) : ConnectionCount :=
  ⟨d.id, (signalsAt connections d.id .first).length, (signalsAt connections d.id .second).length⟩

/-- Puts the declared components and their connections together. -/
def assemble (declared : List Declaration) (connections : List Connection)
    (outputs : List Observation) : Except ParseError ObservedCircuit :=
  let wrong := (declared.map (connectionCount connections)).filter fun c =>
    !(c.first == 1 && c.second == 1)
  if wrong.isEmpty then
    .ok ⟨.ofComponents (declared.filterMap (connected? connections)),
      connections.filterMap Connection.observation? ++ outputs⟩
  else .error (.invalidConnections wrong)

/-- The trimmed lines of a section that are not blank. -/
def sectionLines (s : Section) (source : List Char) : Except ParseError (List (List Char)) :=
  match s.body? source with
  | some body => .ok (Text.trimmedLines body)
  | none => .error (.missingSection s)

/-- Reads the text of a circuit file. -/
def parse (text : String) : Except ParseError ObservedCircuit := do
  let source := text.toList
  let componentLines ← sectionLines .components source
  let behaviourLines ← sectionLines .behaviour source
  let observationLines ← sectionLines .observations source
  let outputLines ← sectionLines .outObservations source
  let declared ← readDeclarations componentLines
  let connections ← (behaviourLines ++ observationLines).mapM (readConnection declared)
  let outputs ← outputLines.mapM (readOutputObservation declared)
  assemble declared connections outputs

/-- What reading a text logs. -/
def parseEvents : Except ParseError ObservedCircuit → List Event
  | .ok c => [.circuitParsed c.circuit.size c.observations.length]
  | .error _ => []

/-! ### Files -/

/-- Why a file gives no circuit. -/
inductive FileError where
  /-- There is no such file, or it is not text. -/
  | unreadable
  | invalid (error : ParseError)
  deriving DecidableEq, Repr

/-- The wording of an error. -/
def FileError.message : FileError → String
  | .unreadable => "failed to read circuit file"
  | .invalid error => error.message

/-- Reads the content of a file; `none` stands for a file that cannot be read. -/
def read (content : Option ByteArray) : Except FileError ObservedCircuit :=
  match content.bind String.fromUTF8? with
  | none => .error .unreadable
  | some text => (parse text).mapError .invalid

end CircuitFile

end CircuitDiagnosis
