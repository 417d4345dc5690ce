import CircuitDiagnosis.Log.Event
import CircuitDiagnosis.Oracle.Formula

/-!
# Oracles

An oracle answers queries. It may keep a state between them and it may fail. `Oracle.ofSolver` asks
a solver about the formula of the query, and `solverOracle` is the one whose solver is
`Cnf.isSatisfiable`; it fails only on a dangling reference.
-/

namespace CircuitDiagnosis

universe u

/-- The answer to a query. -/
inductive Verdict where
  | satisfiable
  | unsatisfiable
  deriving DecidableEq, Repr

/-- The verdict on a formula that is satisfiable or not. -/
def Verdict.ofSatisfiable : Bool → Verdict
  | true => satisfiable
  | false => unsatisfiable

/-- What an oracle makes of a query: its verdict or why there is none, the state in which it meets
the next query, and what it logged. -/
structure Reply (σ : Type u) where
  verdict : Except OracleError Verdict
  state : σ
  events : List Event

/-- An answerer of queries with a state of type `σ`. -/
structure Oracle (σ : Type u) where
  ask : Query → σ → Reply σ

namespace Query

/-- The verdict of the solver on a query without dangling references. -/
def solve (q : Query) : Verdict := .ofSatisfiable q.numberedFormula.isSatisfiable

/-- The verdict on a query, or the first of its dangling references. -/
def verdict (q : Query) : Except OracleError Verdict :=
  match q.dangling? with
  | some error => .error error
  | none => .ok q.solve

end Query

/-- The oracle that hands the formula of a query to a solver, unless there is a dangling reference.
The solver tells whether the formula is satisfiable, or why it cannot tell. -/
def Oracle.ofSolver (solver : Cnf Nat → Except String Bool) : Oracle Unit where
  ask q state :=
    match q.dangling? with
    | some error => ⟨.error error, state, []⟩
    | none =>
      let numbering := q.usedVariables
      let formula := q.formulaOver fun x => numbering.idxOf x
      ⟨((solver formula).mapError .solver).map .ofSatisfiable, state,
        [.querySolved numbering.length formula.length]⟩

/-- The oracle whose solver is `Cnf.isSatisfiable`. This solver never fails, so there is a verdict on
every query without dangling references, and `OracleError.solver` is left to other oracles. -/
def solverOracle : Oracle Unit := .ofSolver fun f => .ok f.isSatisfiable

end CircuitDiagnosis
