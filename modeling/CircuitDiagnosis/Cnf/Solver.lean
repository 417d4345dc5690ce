import CircuitDiagnosis.Cnf.ClauseLearning
import CircuitDiagnosis.Cnf.Constraint

/-!
# Deciding satisfiability

Most formulas are decided by a short search. For the others the formula is read as a list of
constraints, from which atoms are eliminated one by one. An atom with a known value goes first, then
the one that leaves the smallest tables behind. Parities never become tables, so that formulas of
exclusive disjunctions are decided by adding equations. When every elimination would leave a table
with too many atoms, a long search comes next, and at last the two values of an atom are tried.

The searches need not find anything out: elimination and trial remove an atom with every step and
decide by themselves.
-/

namespace CircuitDiagnosis

namespace Constraint

/-- The atoms of several constraints. -/
def atoms (cs : List Constraint) : OrdSet Nat := .union (cs.map scope)

/-- Whether some constraint depends on an atom. -/
def mentioned (x : Nat) (cs : List Constraint) : Bool := cs.any fun c => c.scope.contains x

theorem mem_atoms {x : Nat} {cs : List Constraint} : x ∈ atoms cs ↔ ∃ c ∈ cs, x ∈ c.scope := by
  simp only [atoms, OrdSet.mem_union, List.mem_map]
  exact ⟨fun ⟨_, ⟨c, hc, rfl⟩, hx⟩ => ⟨c, hc, hx⟩, fun ⟨c, hc, hx⟩ => ⟨_, ⟨c, hc, rfl⟩, hx⟩⟩

theorem mentioned_iff {x : Nat} {cs : List Constraint} :
    mentioned x cs = true ↔ x ∈ atoms cs := by
  simp [mentioned, mem_atoms, OrdSet.contains_iff]

/-! ### Every step removes an atom -/

theorem mem_of_shortestParity? {cs : List Constraint} {p : OrdSet Nat × Bool}
    (h : shortestParity? cs = some p) : parity p.1 p.2 ∈ cs := by
  obtain ⟨c, hc, he⟩ := List.mem_filterMap.1 (List.minOn?_mem h)
  cases c with
  | parity s odd => simp only [Option.some.injEq] at he; subst he; exact hc
  | table => simp at he

theorem mem_atoms_eliminateBy {x y : Nat} {s : OrdSet Nat} {odd : Bool} {cs : List Constraint}
    (hx : x ∈ s) (h : y ∈ atoms (eliminateBy x s odd cs)) : y ≠ x ∧ (y ∈ s ∨ y ∈ atoms cs) := by
  obtain ⟨c, hc, hy⟩ := mem_atoms.1 h
  simp only [eliminateBy, substituteAll, List.partition_eq_filter_filter, List.mem_append,
    List.mem_map, List.mem_filter, OrdSet.contains_iff, Function.comp_apply, Bool.not_eq_true',
    ← Bool.not_eq_true] at hc
  rcases hc with ⟨⟨d, ⟨hd, hxd⟩, rfl⟩, _⟩ | ⟨hc, hxc⟩
  · obtain ⟨hne, hy⟩ := mem_scope_substitute hx hxd hy
    exact ⟨hne, hy.imp_right fun hy => mem_atoms.2 ⟨d, hd, hy⟩⟩
  · exact ⟨fun e => hxc (e ▸ hy), .inr (mem_atoms.2 ⟨c, hc, hy⟩)⟩

theorem mem_atoms_eliminate {x y : Nat} {cs : List Constraint} (h : y ∈ atoms (eliminate x cs)) :
    y ≠ x ∧ y ∈ atoms cs := by
  simp only [eliminate] at h
  split at h
  · next s odd hp =>
    have hp := mem_of_shortestParity? hp
    simp only [List.partition_eq_filter_filter, List.mem_filter] at hp
    have := mem_atoms_eliminateBy (OrdSet.contains_iff.1 hp.2) h
    refine ⟨this.1, this.2.elim (fun hy => mem_atoms.2 ⟨_, hp.1, hy⟩) id⟩
  · obtain ⟨c, hc, hy⟩ := mem_atoms.1 h
    simp only [List.partition_eq_filter_filter, List.mem_cons, List.mem_filter,
      Function.comp_apply, Bool.not_eq_true', ← Bool.not_eq_true, OrdSet.contains_iff] at hc
    rcases hc with rfl | ⟨hc, hxc⟩
    · obtain ⟨hne, d, hd, hy⟩ := mem_scope_project hy
      exact ⟨hne, mem_atoms.2 ⟨d, (List.mem_filter.1 hd).1, hy⟩⟩
    · exact ⟨fun e => hxc (e ▸ hy), mem_atoms.2 ⟨c, hc, hy⟩⟩

theorem size_atoms_eliminate_lt {x : Nat} {cs : List Constraint} (h : mentioned x cs = true) :
    (atoms (eliminate x cs)).size < (atoms cs).size :=
  OrdSet.size_lt_of_subset (fun _ hy => (mem_atoms_eliminate hy).2) (mentioned_iff.1 h)
    fun hx => (mem_atoms_eliminate hx).1 rfl

theorem size_atoms_eliminateBy_lt {x : Nat} {value : Bool} {cs : List Constraint}
    (h : mentioned x cs = true) :
    (atoms (eliminateBy x (.ofList [x]) value cs)).size < (atoms cs).size := by
  have hx : x ∈ OrdSet.ofList [x] := by simp
  refine OrdSet.size_lt_of_subset (fun y hy => ?_) (mentioned_iff.1 h)
    fun hy => (mem_atoms_eliminateBy hx hy).1 rfl
  obtain ⟨hne, hy⟩ := mem_atoms_eliminateBy hx hy
  exact hy.resolve_left fun h => hne (by simpa using h)

/-! ### The choice of an atom -/

/-- The atom whose value a constraint gives. -/
def fixedAtom? : Constraint → Option Nat
  | parity s _ =>
    match s.toList with
    | [x] => some x
    | _ => none
  | table .. => none

/-- For every atom below `size` the constraints that depend on it. -/
def byAtom (size : Nat) (cs : List Constraint) : Array (List Constraint) :=
  cs.foldl (fun table c => c.scope.toList.foldl (fun table x => table.modify x (c :: ·)) table)
    (.replicate size [])

/-- The number of atoms of the largest table that the elimination of an atom leaves, given the
constraints that depend on it. -/
def width (touching : List Constraint) : Nat :=
  match shortestParity? touching with
  | some (s, _) =>
    touching.foldl (fun width c =>
      match c with
      | parity .. => width
      | table scope .. => max width ((OrdSet.union [s, scope]).size - 1)) 0
  | none => (OrdSet.union (touching.map scope)).size - 1

/-- The number of atoms up to which tables are joined. -/
def widthLimit : Nat := 12

/-- The atom to remove next: one with a known value, else one with the smallest tables after its
elimination, else, if these are too large, one on which most constraints depend. -/
def suggestion (cs : List Constraint) : Nat :=
  match cs.findSome? fixedAtom? with
  | some x => x
  | none =>
    let size := cs.foldl (fun n c => c.scope.toList.foldl (fun n x => max n (x + 1)) n) 0
    let table := byAtom size cs
    let touching (x : Nat) : List Constraint := table.getD x []
    let atoms := (List.range size).filter fun x => !(touching x).isEmpty
    let widths := atoms.map fun x => (x, width (touching x))
    match widths.minOn? Prod.snd with
    | none => 0
    | some (x, w) =>
      if w ≤ widthLimit then x else (atoms.maxOn? fun x => (touching x).length).getD 0

/-- An atom on which some constraint depends, the suggested one if it is such. -/
def pick? (cs : List Constraint) : Option { x // mentioned x cs = true } :=
  let x := suggestion cs
  if h : mentioned x cs = true then some ⟨x, h⟩
  else
    match _h : (atoms cs).toList with
    | [] => none
    | x :: _ => some ⟨x, mentioned_iff.2 (show x ∈ (atoms cs).toList by simp [_h])⟩

/-- The constraints that depend on an atom. -/
def touching (x : Nat) (cs : List Constraint) : List Constraint :=
  cs.filter fun c => c.scope.contains x

/-- The constraints that are left when atoms are eliminated, as long as no table becomes too
large. -/
def reduce (cs : List Constraint) : List Constraint :=
  if cs.any isContradiction then cs
  else
    match pick? cs with
    | none => cs
    | some ⟨x, _hx⟩ =>
      if width (touching x cs) ≤ widthLimit then reduce (eliminate x cs) else cs
termination_by (atoms cs).size
decreasing_by exact size_atoms_eliminate_lt _hx

theorem size_atoms_reduce_le (cs : List Constraint) :
    (atoms (reduce cs)).size ≤ (atoms cs).size := by
  fun_induction reduce cs with
  | case1 => exact Nat.le_refl _
  | case2 => exact Nat.le_refl _
  | case3 cs _ x hx _ _ ih => exact Nat.le_trans ih (Nat.le_of_lt (size_atoms_eliminate_lt hx))
  | case4 => exact Nat.le_refl _

/-- Whether some valuation fulfils all constraints, where no search is needed to see it. -/
def verdict? (cs : List Constraint) : Option Bool :=
  if cs.any isContradiction then some false
  else if cs.all isTrivial then some true
  else none

/-- Whether some valuation fulfils all constraints. -/
def satisfiable (cs : List Constraint) : Bool :=
  let core := reduce cs
  if core.any isContradiction then false
  else
    match pick? core with
    | none => true
    | some ⟨x, _hx⟩ =>
      satisfiable (eliminateBy x (.ofList [x]) false core) ||
        satisfiable (eliminateBy x (.ofList [x]) true core)
termination_by (atoms cs).size
decreasing_by
  all_goals exact Nat.lt_of_lt_of_le (size_atoms_eliminateBy_lt _hx) (size_atoms_reduce_le cs)

end Constraint

namespace Cnf

/-- The literals that a formula asks for by clauses of one literal. -/
def fixedLiterals (f : Cnf Nat) : List (Literal Nat) :=
  f.filterMap fun
    | [l] => some l
    | _ => none

/-- The value that literals give to an atom; the first one counts. -/
def valueIn? (fixed : List (Literal Nat)) (x : Nat) : Option Bool :=
  (fixed.find? fun l => l.atom == x).map Literal.positive

/-- The formula with the fixed literals taken as true in its longer clauses: a clause with a true
literal is left out, and the false literals are struck from the others. -/
def useFixedLiterals (f : Cnf Nat) : Cnf Nat :=
  let fixed := f.fixedLiterals
  f.filterMap fun
    | [l] => some [l]
    | c =>
      if c.any fun l => valueIn? fixed l.atom == some l.positive then none
      else some (c.filter fun l => (valueIn? fixed l.atom).isNone)

/-- The constraints of a formula. A clause joins the constraint after it, if that depends on all of
its atoms. -/
def constraints (f : Cnf Nat) : List Constraint :=
  f.foldr (fun clause cs =>
    let c := Constraint.ofClause clause
    match cs with
    | [] => [c]
    | d :: rest => if c.scope.subset d.scope then c.both d :: rest else c :: d :: rest) []

/-- How many conflicts a short search learns from. -/
def shortSearch : Nat := 200

/-- How many conflicts a long search learns from. -/
def longSearch : Nat := 50000

/-- Whether some valuation makes every clause true. -/
def isSatisfiable (f : Cnf Nat) : Bool :=
  match (f.search shortSearch).verdict? with
  | some answer => answer
  | none =>
    let core := Constraint.reduce f.useFixedLiterals.constraints
    match Constraint.verdict? core with
    | some answer => answer
    | none =>
      match (f.search longSearch).verdict? with
      | some answer => answer
      | none => Constraint.satisfiable core

end Cnf

end CircuitDiagnosis
