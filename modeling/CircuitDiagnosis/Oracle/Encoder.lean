import CircuitDiagnosis.Oracle.Formula

/-!
# Encoding step by step

The clauses of a query and the numbers of its variables, made in one pass. An `Encoder` holds the
numbers that were given out and the clauses that were added. A variable gets the next number where
it is first used, and each component, observation and fixed flag is checked for dangling references
before its clauses are added (`Query.encode`).
-/

namespace CircuitDiagnosis

/-- The numbers of the variables so far, and the clauses so far. -/
structure Encoder where
  numbers : List (Variable × Nat) := []
  clauses : Cnf Nat := []

namespace Encoder

/-- The number of a variable; a variable that has none gets the next one. -/
def allot (e : Encoder) (x : Variable) : Nat × Encoder :=
  match e.numbers.lookup x with
  | some n => (n, e)
  | none => (e.numbers.length, { e with numbers := e.numbers ++ [(x, e.numbers.length)] })

/-- Adds clauses behind those so far. -/
def add (e : Encoder) (clauses : Cnf Nat) : Encoder := { e with clauses := e.clauses ++ clauses }

/-- Adds the clause that fixes a variable. -/
def fix (e : Encoder) (x : Variable) (value : Bool) : Encoder :=
  let (n, e) := e.allot x
  e.add [[.fix n value]]

/-- Adds the clauses of a component. -/
def gate (e : Encoder) (c : Component) : Encoder :=
  let (flag, e) := e.allot (.faultFlag c.id)
  let (output, e) := e.allot (.signal c.output)
  let (a, e) := e.allot (.signal c.first)
  let (b, e) := e.allot (.signal c.second)
  e.add ((c.kind.clauses output a b).map fun clause => .fix flag true :: clause)

/-- A step that is taken if a check finds no error. -/
def checked {α : Type} (error? : α → Option OracleError) (act : Encoder → α → Encoder)
    (e : Encoder) (a : α) : Except OracleError Encoder :=
  match error? a with
  | some error => .error error
  | none => .ok (act e a)

/-- The number of a variable; of one that has none, the next one. -/
def number (e : Encoder) (x : Variable) : Nat := (e.numbers.lookup x).getD e.numbers.length

end Encoder

/-- The encoder behind the components, the observations and the fixed flags, or the first error. -/
def Query.encode (q : Query) : Except OracleError Encoder := do
  let e ← q.circuit.components.foldlM (Encoder.checked q.danglingInput? Encoder.gate) {}
  let e ← q.observations.foldlM
    (Encoder.checked (fun o => (unknown? q.circuit o.signal).map .unknownObserved)
      fun e o => e.fix (.signal o.signal) o.value) e
  q.faults.flags.foldlM
    (Encoder.checked
      (fun f => if q.circuit.contains f.component then none
        else some (.unknownFaultFlag f.component))
      fun e f => e.fix (.faultFlag f.component) f.faulty) e

end CircuitDiagnosis
