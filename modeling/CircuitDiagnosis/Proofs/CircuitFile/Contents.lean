import CircuitDiagnosis.CircuitFile.Grammar
import CircuitDiagnosis.CircuitFile.Printer
import Mathlib.Data.List.Forall2

/-!
# The contents of a circuit file

What the lines of a circuit file say, taken apart from how they are read: declarations, connections
and observed outputs. They are in order if identifiers are declared once, nothing else is named, and
each input of a declared component is connected once; then they determine a circuit with
observations.

Where a section lies in a text is said by the places of the markers around it.
-/

namespace CircuitDiagnosis.CircuitFile

open Text

/-! ### Where the sections lie -/

/-- The marker stands between two parts of a text; no word character stands before it, and what
follows it is accepted. -/
structure StandsAt (marker : List Char) (accepts : List Char → Bool)
    (text before after : List Char) : Prop where
  text_eq : text = before ++ (marker ++ after)
  opens : opensWord before.getLast? = true
  closes : accepts after = true

/-- The marker stands between two parts of a text, and it stands nowhere earlier. -/
structure StandsFirst (marker : List Char) (accepts : List Char → Bool)
    (text before after : List Char) : Prop where
  stands : StandsAt marker accepts text before after
  first : ∀ b a, StandsAt marker accepts text b a → before.length ≤ b.length

/-- The body of a section is what the first header and the first later footer enclose. -/
def Section.Encloses (s : Section) (source body : List Char) : Prop :=
  ∃ before opened after, StandsFirst s.header (fun _ => true) source before opened ∧
    StandsFirst s.footer closesWord opened body after

/-! ### What the lines spell -/

/-- The line is `ANDG(id)`, `ORG(id)` or `XORG(id)`. -/
def Declaration.Spells (d : Declaration) (line : List Char) : Prop :=
  GateLine.Spells ⟨gateWord d.kind, d.id⟩ line

/-- The declaration of a component. -/
def Declaration.ofComponent (c : Component) : Declaration := ⟨c.id, c.kind⟩

/-- The text is `OUT(id)`, `0` or `1`. -/
def Source.Spells : Source → List Char → Prop
  | .output id, text => SpellsOutput id text
  | .constant value, text => text = (bit value).toList

/-- The line is `IN1(id) = source` or `IN2(id) = source`. -/
def Connection.Spells (c : Connection) (line : List Char) : Prop :=
  ∃ value : String, c.source.Spells value.toList ∧ PinLine.Spells ⟨c.pin, c.component, value⟩ line

/-- The line is `OUT(id) = 0` or `OUT(id) = 1`. -/
def SpellsObservation (o : Observation) (line : List Char) : Prop :=
  ∃ id, o.signal = .output id ∧ OutputLine.Spells ⟨id, bit o.value⟩ line

/-- What the lines of a circuit file say. -/
structure Contents where
  declared : List Declaration
  /-- The connections of the two sections that may hold them, in this order of the sections. -/
  connections : List Connection
  outputs : List Observation

/-- The signal at a pin of a component. -/
def Pin.signal (pin : Pin) (c : Component) : Signal :=
  match pin with
  | .first => c.first
  | .second => c.second

/-- The component has the identifier and the kind of the declaration, and its inputs are the signals
of connections of its pins. -/
structure Declaration.Describes (d : Declaration) (connections : List Connection) (c : Component) :
    Prop where
  id_eq : c.id = d.id
  kind_eq : c.kind = d.kind
  wired : ∀ pin : Pin, ∃ k ∈ connections,
    k.component = d.id ∧ k.pin = pin ∧ k.signal = pin.signal c

namespace Contents

/-- The identifiers that are declared, in their order. -/
def ids (c : Contents) : List ComponentId := c.declared.map Declaration.id

/-- The text has all sections, and each of their lines that is not blank spells its part of the
contents. -/
structure SpelledBy (c : Contents) (source : List Char) : Prop where
  declared : ∃ body, Section.components.Encloses source body ∧
    List.Forall₂ Declaration.Spells c.declared (trimmedLines body)
  connections : ∃ behaviour observations, Section.behaviour.Encloses source behaviour ∧
    Section.observations.Encloses source observations ∧
    List.Forall₂ Connection.Spells c.connections
      (trimmedLines behaviour ++ trimmedLines observations)
  outputs : ∃ body, Section.outObservations.Encloses source body ∧
    List.Forall₂ SpellsObservation c.outputs (trimmedLines body)

/-- Nothing is declared twice, everything that is named is declared, and each pin of a declared
component has one connection. -/
structure WellFormed (c : Contents) : Prop where
  distinct : c.ids.Nodup
  targets_declared : ∀ k ∈ c.connections, k.component ∈ c.ids
  sources_declared : ∀ k ∈ c.connections, ∀ i, k.source = .output i → i ∈ c.ids
  outputs_declared : ∀ o ∈ c.outputs, ∀ i, o.signal = .output i → i ∈ c.ids
  connected_once : ∀ i ∈ c.ids, ∀ pin,
    c.connections.countP (fun k => k.component == i && k.pin == pin) = 1

/-- The circuit has the declared components in their order. The observations are those that the
constants make, in the order of the connections, and then those of outputs. -/
structure Yields (c : Contents) (r : ObservedCircuit) : Prop where
  components : List.Forall₂ (fun d k => d.Describes c.connections k) c.declared r.circuit.components
  observations : r.observations = c.connections.filterMap Connection.observation? ++ c.outputs

end Contents

end CircuitDiagnosis.CircuitFile
