import CircuitDiagnosis.Cnf.Solver
import CircuitDiagnosis.Oracle.Query

/-!
# The formula of a query

A query is written as a formula in conjunctive normal form over one variable for each signal and
one for each fault flag. Every clause of a component holds its fault flag, so that a faulty
component asks for nothing. For the solver the variables are numbered without gaps in the order of
their first use.
-/

namespace CircuitDiagnosis

universe u v

/-- A truth value that a query leaves to be found. -/
inductive Variable where
  /-- Whether a component is faulty. -/
  | faultFlag (component : ComponentId)
  /-- The value of a signal. -/
  | signal (signal : Signal)
  deriving DecidableEq, Repr

/-- The value of a variable under a valuation. -/
def Valuation.value (v : Valuation) : Variable → Bool
  | .faultFlag component => v.faulty component
  | .signal signal => v.signal signal

/-- The literal that holds when the atom has the value. -/
def Literal.fix {ν : Type u} (atom : ν) (value : Bool) : Literal ν := ⟨atom, value⟩

/-- The clauses that say that the atom `o` is the gate function of `a` and `b`. -/
def GateKind.clauses {ν : Type u} (o a b : ν) : GateKind → Cnf ν
  | .and => [[.fix o false, .fix a true], [.fix o false, .fix b true],
      [.fix o true, .fix a false, .fix b false]]
  | .or => [[.fix o true, .fix a false], [.fix o true, .fix b false],
      [.fix o false, .fix a true, .fix b true]]
  | .xor => [[.fix o false, .fix a true, .fix b true],
      [.fix o false, .fix a false, .fix b false],
      [.fix o true, .fix a false, .fix b true],
      [.fix o true, .fix a true, .fix b false]]

namespace Component

/-- The clauses that say that the component is faulty or computes its gate function, over atoms that
stand for the variables. -/
def clausesOver {ν : Type u} (atom : Variable → ν) (c : Component) : Cnf ν :=
  let flag := Literal.fix (atom (.faultFlag c.id)) true
  (c.kind.clauses (atom (.signal c.output)) (atom (.signal c.first)) (atom (.signal c.second))).map
    fun clause => flag :: clause

/-- The variables of a component in the order of their use. -/
def usedVariables (c : Component) : List Variable :=
  [.faultFlag c.id, .signal c.output, .signal c.first, .signal c.second]

end Component

namespace Query

variable (q : Query)

/-- The clauses of the components, of the observations and of the fixed flags, over atoms that stand
for the variables. -/
def formulaOver {ν : Type u} (atom : Variable → ν) : Cnf ν :=
  q.circuit.components.flatMap (Component.clausesOver atom) ++
    q.observations.map (fun o => [.fix (atom (.signal o.signal)) o.value]) ++
    q.faults.flags.map (fun f => [.fix (atom (.faultFlag f.component)) f.faulty])

/-- The formula over the variables themselves. -/
def formula : Cnf Variable := q.formulaOver id

/-- The variables of the formula, each once, in the order of their first use. -/
def usedVariables : List Variable :=
  (q.circuit.components.flatMap Component.usedVariables ++
    q.observations.map (fun o => Variable.signal o.signal) ++
    q.faults.flags.map (fun f => Variable.faultFlag f.component)).eraseDups

/-- The formula with every variable replaced by its number. -/
def numberedFormula : Cnf Nat :=
  let numbering := q.usedVariables
  q.formulaOver fun x => numbering.idxOf x

end Query

/-! ### Renaming of the atoms -/

theorem GateKind.rename_clauses {ν : Type u} {μ : Type v} (name : ν → μ) (o a b : ν)
    (kind : GateKind) :
    (kind.clauses o a b).rename name = kind.clauses (name o) (name a) (name b) := by
  cases kind <;> rfl

theorem Component.rename_clausesOver {ν : Type u} {μ : Type v} (name : ν → μ)
    (atom : Variable → ν) (c : Component) :
    (c.clausesOver atom).rename name = c.clausesOver (name ∘ atom) := by
  unfold clausesOver
  simp only [Function.comp_apply]
  rw [← c.kind.rename_clauses name]
  simp [Cnf.rename, Literal.fix, Function.comp_def]

theorem Query.rename_formulaOver {ν : Type u} {μ : Type v} (name : ν → μ) (atom : Variable → ν)
    (q : Query) : (q.formulaOver atom).rename name = q.formulaOver (name ∘ atom) := by
  have hc : Component.clausesOver (name ∘ atom) =
      Cnf.rename name ∘ Component.clausesOver atom :=
    funext fun c => (c.rename_clausesOver name atom).symm
  rw [formulaOver, formulaOver, hc]
  simp [Cnf.rename, List.map_flatMap, Literal.fix, Function.comp_def]

/-- The numbered formula is the formula with its variables renamed to their numbers. -/
theorem Query.numberedFormula_eq_rename (q : Query) :
    q.numberedFormula = q.formula.rename fun x => q.usedVariables.idxOf x :=
  (q.rename_formulaOver (fun x => q.usedVariables.idxOf x) id).symm

theorem Query.length_numberedFormula (q : Query) :
    q.numberedFormula.length = q.formula.length := by
  simp [q.numberedFormula_eq_rename, Cnf.rename]

end CircuitDiagnosis
