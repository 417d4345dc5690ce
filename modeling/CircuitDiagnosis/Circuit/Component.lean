import CircuitDiagnosis.Circuit.Gate
import CircuitDiagnosis.OrdSet.Basic

/-!
# Components, signals and observations

A component is a two-input gate with an identifier. Its inputs are signals: either an input of the
whole circuit, known by its name, or the output of a component. An input that happens to be named
like the text of an output is still a different signal.
-/

namespace CircuitDiagnosis

open Std

/-- The identifier of a component; identifiers are compared by code point. -/
abbrev ComponentId := String

/-- A finite set of components. -/
abbrev ComponentSet := OrdSet ComponentId

/-- The text of a set of components: its members between braces, parted by a comma and a space. -/
def ComponentSet.text (s : ComponentSet) : String :=
  String.singleton '{' ++ String.intercalate ", " s.toList ++ String.singleton '}'

/-- A signal of a circuit. -/
inductive Signal where
  /-- An input of the circuit, known by its name. -/
  | input (name : String)
  /-- The output of a component. -/
  | output (component : ComponentId)
  deriving DecidableEq, Repr, Inhabited

namespace Signal

/-- The text of a signal: the bare name of an input, `OUT(..)` around a component. -/
def text : Signal → String
  | .input name => name
  | .output component => "OUT(" ++ component ++ ")"

/-- The sort of a signal: inputs stand before outputs. -/
def rank : Signal → Nat
  | .input _ => 0
  | .output _ => 1

/-- The name of the input or of the component. -/
def name : Signal → String
  | .input name => name
  | .output component => component

/-- Inputs come before outputs; signals of one sort are compared by name. -/
instance : Ord Signal where
  compare := compareLex (compareOn rank) (compareOn name)

instance : TransOrd Signal :=
  inferInstanceAs (TransCmp (compareLex (compareOn rank) (compareOn name)))

instance : LawfulEqOrd Signal where
  compare_self {s} := by
    change (compare s.rank s.rank).then (compare s.name s.name) = .eq
    simp [compare_self]
  eq_of_compare {s t} h := by
    change (compare s.rank t.rank).then (compare s.name t.name) = .eq at h
    obtain ⟨hr, hn⟩ := Ordering.then_eq_eq.1 h
    have hr := LawfulEqCmp.eq_of_compare hr
    have hn := LawfulEqCmp.eq_of_compare hn
    cases s <;> cases t <;> simp_all [rank, name]

end Signal

/-- A two-input gate of a circuit. -/
structure Component where
  id : ComponentId
  kind : GateKind
  /-- The signal at the first input. -/
  first : Signal
  /-- The signal at the second input. -/
  second : Signal
  deriving DecidableEq, Repr, Inhabited

namespace Component

/-- The signal that a component drives. -/
def output (c : Component) : Signal := .output c.id

/-- The two signals that a component reads, the first input first. -/
def inputs (c : Component) : List Signal := [c.first, c.second]

end Component

/-- A signal was seen to have a value. -/
structure Observation where
  signal : Signal
  value : Bool
  deriving DecidableEq, Repr, Inhabited

end CircuitDiagnosis
