/-!
# Gates

The three kinds of two-input gates and the Boolean function that each of them computes.
-/

namespace CircuitDiagnosis

/-- The kind of a two-input gate. -/
inductive GateKind where
  | and
  | or
  | xor
  deriving DecidableEq, Repr, Inhabited

namespace GateKind

/-- The output of a working gate for its two inputs. -/
def evaluate : GateKind → Bool → Bool → Bool
  | .and, a, b => a && b
  | .or, a, b => a || b
  | .xor, a, b => a ^^ b

/-- The name under which a gate kind is shown. -/
def text : GateKind → String
  | .and => "AND"
  | .or => "OR"
  | .xor => "XOR"

/-- The outputs for the inputs (0,0), (0,1), (1,0) and (1,1). -/
def table (kind : GateKind) : List Bool :=
  [kind.evaluate false false, kind.evaluate false true,
    kind.evaluate true false, kind.evaluate true true]

end GateKind

end CircuitDiagnosis
