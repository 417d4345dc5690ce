import CircuitDiagnosis.Circuit.Basic

/-!
# Wiring and simulation

Which component reads the output of which, when a circuit is free of cycles, and the value that
every signal gets when all gates work and the inputs of the circuit are known.
-/

namespace CircuitDiagnosis

namespace Circuit

variable (circuit : Circuit)

/-- A component of the circuit, of the first identifier, reads the output of the second. -/
def Reads (reader source : ComponentId) : Prop :=
  ∃ c ∈ circuit.components, c.id = reader ∧ Signal.output source ∈ c.inputs

/-- The output of the first component can reach the second one along the wiring. -/
inductive Reaches : ComponentId → ComponentId → Prop where
  | refl (id : ComponentId) : Reaches id id
  | step {source reader target : ComponentId} :
      circuit.Reads reader source → Reaches reader target → Reaches source target

/-- Some ranking puts every component above all whose outputs it reads. -/
def Acyclic : Prop :=
  ∃ rank : ComponentId → Nat,
    ∀ reader source, circuit.Reads reader source → rank source < rank reader

/-- Every output that a component reads is the output of a component of the circuit. -/
def Closed : Prop := ∀ reader source, circuit.Reads reader source → source ∈ circuit.ids

/-- The value of a signal, followed through at most `depth` components; beyond it is false. -/
def valueWithin (inputs : String → Bool) : Nat → Signal → Bool
  | _, .input name => inputs name
  | 0, .output _ => false
  | depth + 1, .output id =>
    match circuit.component? id with
    | some c =>
      c.kind.evaluate (valueWithin inputs depth c.first) (valueWithin inputs depth c.second)
    | none => false

/-- The value of a signal when all gates work. In a circuit without cycles no path through it is
longer than the number of its components. -/
def simulate (inputs : String → Bool) (signal : Signal) : Bool :=
  circuit.valueWithin inputs circuit.size signal

end Circuit

end CircuitDiagnosis
