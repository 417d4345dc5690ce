/-!
# Clauses and their satisfaction

A formula in conjunctive normal form over atoms of any type, and what it means for a valuation of
the atoms to satisfy it. `Cnf.rename` renames atoms.
-/

namespace CircuitDiagnosis

universe u v

/-- An atom or its negation. -/
structure Literal (ν : Type u) where
  atom : ν
  positive : Bool
  deriving DecidableEq, Repr

/-- A disjunction of literals. -/
abbrev Clause (ν : Type u) := List (Literal ν)

/-- A conjunction of clauses. -/
abbrev Cnf (ν : Type u) := List (Clause ν)

namespace Literal

variable {ν : Type u}

/-- Whether the literal is true under a valuation. -/
def holds (valuation : ν → Bool) (l : Literal ν) : Bool := valuation l.atom == l.positive

end Literal

/-- Whether some literal of the clause is true. -/
def Clause.holds {ν : Type u} (valuation : ν → Bool) (c : Clause ν) : Bool :=
  c.any (Literal.holds valuation)

namespace Cnf

variable {ν : Type u} {μ : Type v}

/-- Whether every clause is true. -/
def holds (valuation : ν → Bool) (f : Cnf ν) : Bool := f.all (Clause.holds valuation)

/-- Some valuation makes every clause true. -/
def Satisfiable (f : Cnf ν) : Prop := ∃ valuation : ν → Bool, f.holds valuation = true

/-- Renames every atom. -/
def rename (name : ν → μ) (f : Cnf ν) : Cnf μ :=
  f.map fun c => c.map fun l => ⟨name l.atom, l.positive⟩

end Cnf

end CircuitDiagnosis
