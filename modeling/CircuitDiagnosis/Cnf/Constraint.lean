import CircuitDiagnosis.Cnf.DecisionTree
import CircuitDiagnosis.OrdSet.Basic

/-!
# Constraints and their elimination

A constraint on numbered atoms is a parity, which may span many atoms, or the table of any function,
as a decision tree. An atom is eliminated from a list of constraints so that they keep their
solutions on all other atoms: `substitute` replaces it by its value under a parity that contains
it, `project` joins all tables that contain it and forgets it. No operation brings in an atom
(`mem_scope_substitute`, `mem_scope_project`).
-/

namespace CircuitDiagnosis

/-- A condition on numbered atoms. -/
inductive Constraint where
  /-- An odd number of the atoms is true, or an even number. -/
  | parity (atoms : OrdSet Nat) (odd : Bool)
  /-- The tree is true; it asks for no atom outside of the scope. -/
  | table (scope : OrdSet Nat) (tree : DecisionTree)
      (covers : ∀ x, tree.mentions x = true → x ∈ scope)

namespace Constraint

/-- Whether a valuation fulfils the constraint. -/
def holds (valuation : Nat → Bool) : Constraint → Bool
  | parity atoms odd => (atoms.toList.foldr (fun x p => valuation x ^^ p) false) == odd
  | table _ tree _ => tree.eval valuation

/-- The atoms on which the constraint depends. -/
def scope : Constraint → OrdSet Nat
  | parity atoms _ => atoms
  | table scope _ _ => scope

/-- The constraint as a decision tree. -/
def tree : Constraint → DecisionTree
  | parity atoms odd => .ofParity odd atoms.toList
  | table _ tree _ => tree

/-- Whether no valuation fulfils the constraint: it asks for an odd number of no atoms. -/
def isContradiction : Constraint → Bool
  | parity atoms odd => atoms.isEmpty && odd
  | table .. => false

/-- Whether the constraint asks for nothing. -/
def isTrivial : Constraint → Bool
  | parity atoms odd => atoms.isEmpty && !odd
  | table .. => false

theorem mem_scope_of_mentions {c : Constraint} {x : Nat} (h : c.tree.mentions x = true) :
    x ∈ c.scope := by
  cases c with
  | parity atoms odd => exact DecisionTree.mem_of_mentions_ofParity h
  | table scope tree covers => exact covers x h

/-- The constraint of a decision tree that asks for some of the candidates. A function without
atoms is a parity too. -/
def ofTree (candidates : OrdSet Nat) (tree : DecisionTree)
    (covers : ∀ x, tree.mentions x = true → x ∈ candidates) : Constraint :=
  let scope := candidates.filter tree.mentions
  match tree.parity? scope.toList with
  | some odd => parity scope odd
  | none => table scope tree fun x h => OrdSet.mem_filter.2 ⟨covers x h, h⟩

theorem scope_ofTree (candidates : OrdSet Nat) (tree : DecisionTree)
    (covers : ∀ x, tree.mentions x = true → x ∈ candidates) :
    (ofTree candidates tree covers).scope = candidates.filter tree.mentions := by
  simp only [ofTree]
  split <;> rfl

/-- The constraint of a clause. -/
def ofClause (c : Clause Nat) : Constraint :=
  ofTree (.ofList (c.map Literal.atom)) (.ofClause c) fun x h => by
    obtain ⟨l, hl, rfl⟩ := DecisionTree.exists_of_mentions_ofClause h
    exact OrdSet.mem_ofList.2 (List.mem_map_of_mem hl)

/-- The constraint that two constraints hold. -/
def both (c d : Constraint) : Constraint :=
  ofTree (.union [c.scope, d.scope]) (c.tree.conj d.tree) fun x h => by
    rcases DecisionTree.mentions_conj h with h | h
    · exact OrdSet.mem_union.2 ⟨_, by simp, mem_scope_of_mentions h⟩
    · exact OrdSet.mem_union.2 ⟨_, by simp, mem_scope_of_mentions h⟩

/-- The conjunction of several constraints as a decision tree. -/
def conjunction (cs : List Constraint) : DecisionTree :=
  cs.foldr (fun c t => c.tree.conj t) (.leaf true)

theorem mem_of_mentions_conjunction {cs : List Constraint} {x : Nat}
    (h : (conjunction cs).mentions x = true) : x ∈ OrdSet.union (cs.map scope) := by
  induction cs with
  | nil => simp [conjunction, DecisionTree.mentions] at h
  | cons c rest ih =>
    rw [OrdSet.mem_union] at ih ⊢
    rcases DecisionTree.mentions_conj h with h | h
    · exact ⟨c.scope, by simp, mem_scope_of_mentions h⟩
    · obtain ⟨s, hs, hx⟩ := ih h
      exact ⟨s, List.mem_cons_of_mem _ hs, hx⟩

/-! ### Elimination -/

/-- The set without an element. -/
def without (x : Nat) (s : OrdSet Nat) : OrdSet Nat := s.filter fun y => y != x

/-- The elements of exactly one of two sets. -/
def difference (s t : OrdSet Nat) : OrdSet Nat := .union [s.diff t, t.diff s]

/-- The constraints joined, and an atom forgotten. -/
def project (x : Nat) (cs : List Constraint) : Constraint :=
  ofTree (without x (.union (cs.map scope))) ((conjunction cs).forget x) fun y h => by
    obtain ⟨hne, h⟩ := DecisionTree.mentions_forget h
    exact OrdSet.mem_filter.2 ⟨mem_of_mentions_conjunction h, by simpa using hne⟩

/-- The constraint with an atom replaced by its value under a parity that contains it. -/
def substitute (x : Nat) (atoms : OrdSet Nat) (odd : Bool) : Constraint → Constraint
  | parity others oddOthers => parity (difference atoms others) (odd ^^ oddOthers)
  | table scope tree covers => project x [parity atoms odd, table scope tree covers]

theorem mem_scope_project {x y : Nat} {cs : List Constraint} (h : y ∈ (project x cs).scope) :
    y ≠ x ∧ ∃ c ∈ cs, y ∈ c.scope := by
  rw [project, scope_ofTree, OrdSet.mem_filter] at h
  obtain ⟨hu, hne⟩ := OrdSet.mem_filter.1 h.1
  obtain ⟨s, hs, hy⟩ := OrdSet.mem_union.1 hu
  obtain ⟨c, hc, rfl⟩ := List.mem_map.1 hs
  exact ⟨by simpa using hne, c, hc, hy⟩

theorem mem_scope_substitute {x y : Nat} {atoms : OrdSet Nat} {odd : Bool} {c : Constraint}
    (hx : x ∈ atoms) (hc : x ∈ c.scope) (h : y ∈ (c.substitute x atoms odd).scope) :
    y ≠ x ∧ (y ∈ atoms ∨ y ∈ c.scope) := by
  cases c with
  | parity others oddOthers =>
    simp only [substitute, scope, difference] at h hc ⊢
    obtain ⟨s, hs, hy⟩ := OrdSet.mem_union.1 h
    simp only [List.mem_cons, List.not_mem_nil, or_false] at hs
    rcases hs with rfl | rfl
    · obtain ⟨hy, hn⟩ := OrdSet.mem_diff.1 hy
      exact ⟨fun e => hn (e ▸ hc), .inl hy⟩
    · obtain ⟨hy, hn⟩ := OrdSet.mem_diff.1 hy
      exact ⟨fun e => hn (e ▸ hx), .inr hy⟩
  | table scope tree covers =>
    obtain ⟨hne, c, hc, hy⟩ := mem_scope_project h
    simp only [List.mem_cons, List.not_mem_nil, or_false] at hc
    rcases hc with rfl | rfl
    · exact ⟨hne, .inl hy⟩
    · exact ⟨hne, .inr hy⟩

/-- The shortest of several parities. -/
def shortestParity? (cs : List Constraint) : Option (OrdSet Nat × Bool) :=
  (cs.filterMap fun
    | parity atoms odd => some (atoms, odd)
    | table .. => none).minOn? fun p => p.1.size

/-- The constraints with an atom replaced by its value under a parity; those that ask for nothing
then are left out. -/
def substituteAll (x : Nat) (atoms : OrdSet Nat) (odd : Bool) (cs : List Constraint) :
    List Constraint :=
  (cs.map (substitute x atoms odd)).filter fun c => !c.isTrivial

/-- The constraints without an atom, which has its value under a parity. -/
def eliminateBy (x : Nat) (atoms : OrdSet Nat) (odd : Bool) (cs : List Constraint) :
    List Constraint :=
  let (touching, rest) := cs.partition fun c => c.scope.contains x
  substituteAll x atoms odd touching ++ rest

/-- The constraints without an atom. -/
def eliminate (x : Nat) (cs : List Constraint) : List Constraint :=
  let (touching, rest) := cs.partition fun c => c.scope.contains x
  match shortestParity? touching with
  | some (atoms, odd) => substituteAll x atoms odd touching ++ rest
  | none => project x touching :: rest

end Constraint

end CircuitDiagnosis
