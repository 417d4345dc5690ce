import CircuitDiagnosis.Cnf.Constraint
import Mathlib.Tactic.Tauto

/-!
# Solutions of constraints

What the operations on constraints do to their solutions. A constraint only looks at the atoms of
its scope (`Constraint.holds_congr`). Joining tables is conjunction, forgetting an atom leaves the
valuations that some value of it completes (`Constraint.holds_project_iff`), and under a parity that
holds the replacement of an atom changes nothing (`Constraint.holds_substitute`).

So the elimination of an atom keeps solvability: `Constraint.solvable_eliminateBy_iff` for the
replacement under a parity, `Constraint.solvable_eliminate_iff` for the elimination that the solver
picks. Every table that comes up depends on some atom (`Constraint.Proper`), so constraints that
depend on none are decided by looking at them.
-/

namespace CircuitDiagnosis

/-- The valuation with one atom set. -/
def assign (v : Nat → Bool) (x : Nat) (value : Bool) : Nat → Bool :=
  fun y => if y = x then value else v y

theorem assign_same (v : Nat → Bool) (x : Nat) (value : Bool) : assign v x value x = value :=
  if_pos rfl

theorem assign_other {x y : Nat} (v : Nat → Bool) (value : Bool) (h : y ≠ x) :
    assign v x value y = v y :=
  if_neg h

theorem assign_self (v : Nat → Bool) (x : Nat) : assign v x (v x) = v := by
  funext y
  by_cases h : y = x
  · rw [h, assign_same]
  · rw [assign_other v _ h]

/-! ### Parities -/

/-- Whether an odd number of the atoms is true. -/
def oddlyMany (v : Nat → Bool) (l : List Nat) : Bool := l.foldr (fun x p => v x ^^ p) false

theorem oddlyMany_cons (v : Nat → Bool) (x : Nat) (l : List Nat) :
    oddlyMany v (x :: l) = (v x ^^ oddlyMany v l) :=
  rfl

theorem oddlyMany_congr {v w : Nat → Bool} {l : List Nat} (h : ∀ x ∈ l, v x = w x) :
    oddlyMany v l = oddlyMany w l := by
  induction l with
  | nil => rfl
  | cons x rest ih =>
      rw [oddlyMany_cons, oddlyMany_cons, h x List.mem_cons_self,
        ih fun y hy => h y (List.mem_cons_of_mem x hy)]

/-- A parity is the sum of the parities of the atoms that pass a test and of those that do not. -/
theorem oddlyMany_split (v : Nat → Bool) (p : Nat → Bool) (l : List Nat) :
    oddlyMany v l = (oddlyMany v (l.filter p) ^^ oddlyMany v (l.filter fun x => !p x)) := by
  induction l with
  | nil => rfl
  | cons x rest ih =>
      cases hp : p x with
      | true =>
          rw [List.filter_cons_of_pos hp, List.filter_cons_of_neg (by simp [hp]), oddlyMany_cons,
            oddlyMany_cons, ih, Bool.xor_assoc]
      | false =>
          rw [List.filter_cons_of_neg (by simp [hp]), List.filter_cons_of_pos (by simp [hp]),
            oddlyMany_cons, oddlyMany_cons, ih, Bool.xor_left_comm]

/-! ### Decision trees -/

namespace DecisionTree

theorem eval_congr {v w : Nat → Bool} {t : DecisionTree}
    (h : ∀ x, t.mentions x = true → v x = w x) : t.eval v = t.eval w := by
  induction t with
  | leaf => rfl
  | branch y a b iha ihb =>
      have hy : v y = w y := h y (by simp [mentions])
      have ha := iha fun x hx => h x (by simp [mentions, hx])
      have hb := ihb fun x hx => h x (by simp [mentions, hx])
      simp only [eval, hy, ha, hb]

theorem eval_ofParity (v : Nat → Bool) (odd : Bool) (l : List Nat) :
    (ofParity odd l).eval v = (oddlyMany v l == odd) := by
  induction l generalizing odd with
  | nil => cases odd <;> rfl
  | cons x rest ih =>
      simp only [ofParity, eval, ih, oddlyMany_cons]
      cases v x <;> cases oddlyMany v rest <;> cases odd <;> rfl

/-- A tree that is recognised as a parity has the value of that parity. -/
theorem eval_of_parity? {t : DecisionTree} {l : List Nat} {odd : Bool}
    (h : t.parity? l = some odd) (v : Nat → Bool) : t.eval v = (oddlyMany v l == odd) := by
  induction t generalizing l odd with
  | leaf value =>
      cases l with
      | nil =>
          simp only [parity?, Option.some.injEq] at h
          subst h
          cases value <;> rfl
      | cons y rest => simp [parity?] at h
  | branch x a b iha ihb =>
      cases l with
      | nil => simp [parity?] at h
      | cons y rest =>
          simp only [parity?] at h
          split at h
          · next hxy =>
            split at h
            · next odda ha =>
              split at h
              · next hb =>
                cases h
                simp only [eval, iha ha, ihb hb, oddlyMany_cons, hxy]
                cases v y <;> cases oddlyMany v rest <;> cases odd <;> rfl
              · cases h
            · cases h
          · cases h

theorem eval_ofLiteral (v : Nat → Bool) (l : Literal Nat) :
    (ofLiteral l).eval v = l.holds v := by
  simp only [ofLiteral, eval, Literal.holds]
  cases v l.atom <;> cases l.positive <;> rfl

theorem eval_ofClause (v : Nat → Bool) (c : Clause Nat) : (ofClause c).eval v = c.holds v := by
  induction c with
  | nil => rfl
  | cons l rest ih =>
      change ((ofLiteral l).disj (ofClause rest)).eval v = _
      rw [eval_disj, eval_ofLiteral, ih]
      rfl

end DecisionTree

namespace Constraint

/-! ### Single constraints -/

theorem holds_parity (v : Nat → Bool) (atoms : OrdSet Nat) (odd : Bool) :
    (parity atoms odd).holds v = (oddlyMany v atoms.toList == odd) :=
  rfl

theorem eval_tree (v : Nat → Bool) (c : Constraint) : c.tree.eval v = c.holds v := by
  cases c with
  | parity atoms odd => exact DecisionTree.eval_ofParity v odd atoms.toList
  | table scope tree covers => rfl

/-- A constraint only looks at the atoms of its scope. -/
theorem holds_congr {v w : Nat → Bool} {c : Constraint} (h : ∀ x ∈ c.scope, v x = w x) :
    c.holds v = c.holds w := by
  rw [← eval_tree, ← eval_tree]
  exact DecisionTree.eval_congr fun x hx => h x (mem_scope_of_mentions hx)

theorem holds_assign {x : Nat} {c : Constraint} (h : x ∉ c.scope) (v : Nat → Bool)
    (value : Bool) : c.holds (assign v x value) = c.holds v := by
  refine holds_congr fun y hy => assign_other v value ?_
  rintro rfl
  exact h hy

theorem holds_ofTree (v : Nat → Bool) (candidates : OrdSet Nat) (tree : DecisionTree)
    (covers : ∀ x, tree.mentions x = true → x ∈ candidates) :
    (ofTree candidates tree covers).holds v = tree.eval v := by
  simp only [ofTree]
  split
  · next odd hodd => exact (DecisionTree.eval_of_parity? hodd v).symm
  · rfl

theorem holds_ofClause (v : Nat → Bool) (c : Clause Nat) : (ofClause c).holds v = c.holds v := by
  rw [ofClause, holds_ofTree, DecisionTree.eval_ofClause]

theorem holds_both (v : Nat → Bool) (c d : Constraint) :
    (c.both d).holds v = (c.holds v && d.holds v) := by
  rw [both, holds_ofTree, DecisionTree.eval_conj, eval_tree, eval_tree]

/-- The valuation fulfils all constraints. -/
def AllHold (v : Nat → Bool) (cs : List Constraint) : Prop := ∀ c ∈ cs, c.holds v = true

/-- Some valuation fulfils all constraints. -/
def Solvable (cs : List Constraint) : Prop := ∃ v, AllHold v cs

theorem eval_conjunction_iff {v : Nat → Bool} {cs : List Constraint} :
    (conjunction cs).eval v = true ↔ AllHold v cs := by
  induction cs with
  | nil => exact ⟨fun _ c hc => (by cases hc), fun _ => rfl⟩
  | cons c rest ih =>
      change ((c.tree.conj (conjunction rest)).eval v = true) ↔ _
      rw [DecisionTree.eval_conj, Bool.and_eq_true, eval_tree, ih]
      exact (List.forall_mem_cons (p := fun d : Constraint => d.holds v = true)).symm

/-- A projection holds where some value of the forgotten atom makes all constraints hold. -/
theorem holds_project_iff {v : Nat → Bool} {x : Nat} {cs : List Constraint} :
    (project x cs).holds v = true ↔ ∃ value, AllHold (assign v x value) cs := by
  rw [project, holds_ofTree, DecisionTree.eval_forget]
  simp only [← eval_conjunction_iff]
  rfl

/-! ### Replacement under a parity -/

theorem toList_filter (p : Nat → Bool) (s : OrdSet Nat) :
    (s.filter p).toList = s.toList.filter p :=
  rfl

/-- The parity of the elements of exactly one of two sets is the sum of their parities. -/
theorem oddlyMany_difference (v : Nat → Bool) (s t : OrdSet Nat) :
    oddlyMany v (difference s t).toList = (oddlyMany v s.toList ^^ oddlyMany v t.toList) := by
  have hmem : ∀ a, a ∈ difference s t ↔ (a ∈ s ∧ a ∉ t) ∨ (a ∈ t ∧ a ∉ s) := by
    intro a
    simp [difference]
  have honly : (difference s t).filter s.contains = s.filter fun a => !t.contains a := by
    apply OrdSet.ext_mem
    intro a
    simp only [OrdSet.mem_filter, hmem, OrdSet.contains_iff, Bool.not_eq_true', ← Bool.not_eq_true]
    tauto
  have hother : ((difference s t).filter fun a => !s.contains a) =
      t.filter fun a => !s.contains a := by
    apply OrdSet.ext_mem
    intro a
    simp only [OrdSet.mem_filter, hmem, OrdSet.contains_iff, Bool.not_eq_true', ← Bool.not_eq_true]
    tauto
  have hcommon : s.filter t.contains = t.filter s.contains := by
    apply OrdSet.ext_mem
    intro a
    simp only [OrdSet.mem_filter, OrdSet.contains_iff]
    exact and_comm
  rw [oddlyMany_split v s.contains (difference s t).toList, oddlyMany_split v t.contains s.toList,
    oddlyMany_split v s.contains t.toList]
  simp only [← toList_filter]
  rw [honly, hother, hcommon]
  generalize oddlyMany v (t.filter s.contains).toList = common
  generalize oddlyMany v (s.filter fun a => !t.contains a).toList = left
  generalize oddlyMany v (t.filter fun a => !s.contains a).toList = right
  cases common <;> cases left <;> cases right <;> rfl

/-- The parity of a set with an atom is the sum of the value of the atom and of the parity of the
others. -/
theorem oddlyMany_of_mem {x : Nat} {s : OrdSet Nat} (h : x ∈ s) (v : Nat → Bool) :
    oddlyMany v s.toList = (v x ^^ oddlyMany v (without x s).toList) := by
  have hsingle : s.filter (fun y => !(y != x)) = OrdSet.ofList [x] := by
    apply OrdSet.ext_mem
    intro a
    simp only [OrdSet.mem_filter, OrdSet.mem_ofList, List.mem_singleton, Bool.not_eq_true',
      bne_eq_false_iff_eq]
    constructor
    · exact fun ha => ha.2
    · rintro rfl
      exact ⟨h, rfl⟩
  rw [oddlyMany_split v (fun y => y != x) s.toList]
  simp only [← toList_filter]
  rw [hsingle, Bool.xor_comm]
  change ((v x ^^ false) ^^ _) = _
  rw [Bool.xor_false]
  rfl

/-- The parity of a set with an atom after the atom was given a value. -/
theorem oddlyMany_assign_of_mem {x : Nat} {s : OrdSet Nat} (h : x ∈ s) (v : Nat → Bool)
    (value : Bool) :
    oddlyMany (assign v x value) s.toList = (value ^^ oddlyMany v (without x s).toList) := by
  have hothers : oddlyMany (assign v x value) (without x s).toList =
      oddlyMany v (without x s).toList := by
    refine oddlyMany_congr fun y hy => assign_other v value ?_
    have hne := (OrdSet.mem_filter.mp (OrdSet.mem_toList.mp hy)).2
    simpa using hne
  rw [oddlyMany_of_mem h, assign_same, hothers]

/-- Some value of an atom of a parity makes the parity hold, whatever the other atoms are. -/
theorem exists_holds_parity {x : Nat} {s : OrdSet Nat} (h : x ∈ s) (v : Nat → Bool) (odd : Bool) :
    ∃ value, (parity s odd).holds (assign v x value) = true := by
  refine ⟨odd ^^ oddlyMany v (without x s).toList, ?_⟩
  rw [holds_parity, oddlyMany_assign_of_mem h]
  generalize oddlyMany v (without x s).toList = others
  cases odd <;> cases others <;> rfl

/-- Only one value of an atom of a parity makes the parity hold. -/
theorem eq_of_holds_parity {x : Nat} {s : OrdSet Nat} (h : x ∈ s) {v : Nat → Bool} {odd value : Bool}
    (hv : (parity s odd).holds v = true) (ha : (parity s odd).holds (assign v x value) = true) :
    value = v x := by
  rw [holds_parity, beq_iff_eq, oddlyMany_of_mem h] at hv
  rw [holds_parity, beq_iff_eq, oddlyMany_assign_of_mem h, ← hv] at ha
  exact Bool.xor_right_inj.mp (by rw [Bool.xor_comm, ha, Bool.xor_comm])

/-- Where a parity holds, the replacement of one of its atoms changes no constraint. -/
theorem holds_substitute {x : Nat} {s : OrdSet Nat} {odd : Bool} {v : Nat → Bool} (hx : x ∈ s)
    (hv : (parity s odd).holds v = true) (c : Constraint) :
    (c.substitute x s odd).holds v = c.holds v := by
  cases c with
  | parity others oddOthers =>
      rw [holds_parity, beq_iff_eq] at hv
      change (oddlyMany v (difference s others).toList == (odd ^^ oddOthers)) =
        (oddlyMany v others.toList == oddOthers)
      rw [oddlyMany_difference, hv]
      cases odd <;> cases oddlyMany v others.toList <;> cases oddOthers <;> rfl
  | table scope tree covers =>
      rw [Bool.eq_iff_iff]
      change (project x [parity s odd, table scope tree covers]).holds v = true ↔ _
      rw [holds_project_iff]
      simp only [AllHold, List.forall_mem_cons]
      constructor
      · rintro ⟨value, hp, ht, _⟩
        have hval := eq_of_holds_parity hx hv hp
        rw [hval, assign_self] at ht
        exact ht
      · intro ht
        refine ⟨v x, ?_, ?_, fun _ h => by cases h⟩
        · rw [assign_self]
          exact hv
        · rw [assign_self]
          exact ht

/-! ### Elimination -/

theorem mem_eliminateBy_iff {x : Nat} {s : OrdSet Nat} {odd : Bool} {cs : List Constraint}
    {c : Constraint} :
    c ∈ eliminateBy x s odd cs ↔
      (c.isTrivial = false ∧ ∃ d ∈ cs, x ∈ d.scope ∧ d.substitute x s odd = c) ∨
        (c ∈ cs ∧ x ∉ c.scope) := by
  simp only [eliminateBy, substituteAll, List.partition_eq_filter_filter, List.mem_append,
    List.mem_filter, List.mem_map, OrdSet.contains_iff, Function.comp_apply, Bool.not_eq_true',
    ← Bool.not_eq_true, and_assoc, and_comm]

theorem holds_of_isTrivial {c : Constraint} (h : c.isTrivial = true) (v : Nat → Bool) :
    c.holds v = true := by
  cases c with
  | parity s odd =>
      simp only [isTrivial, Bool.and_eq_true, Bool.not_eq_true', OrdSet.isEmpty,
        List.isEmpty_iff] at h
      rw [holds_parity, h.1, h.2]
      rfl
  | table => cases h

theorem not_mem_scope_substitute {x : Nat} {s : OrdSet Nat} {odd : Bool} {c : Constraint}
    (hx : x ∈ s) (hc : x ∈ c.scope) : x ∉ (c.substitute x s odd).scope :=
  fun h => (mem_scope_substitute hx hc h).1 rfl

/-- The replacement of an atom under a parity keeps the solutions in which the parity holds. -/
theorem solvable_eliminateBy_iff {x : Nat} {s : OrdSet Nat} {odd : Bool} {cs : List Constraint}
    (hx : x ∈ s) :
    Solvable (eliminateBy x s odd cs) ↔ ∃ v, (parity s odd).holds v = true ∧ AllHold v cs := by
  constructor
  · rintro ⟨v, hv⟩
    -- The atom gets the value under which the parity holds.
    obtain ⟨value, hparity⟩ := exists_holds_parity hx v odd
    refine ⟨assign v x value, hparity, fun c hc => ?_⟩
    by_cases hxc : x ∈ c.scope
    · rw [← holds_substitute hx hparity c, holds_assign (not_mem_scope_substitute hx hxc)]
      cases htriv : (c.substitute x s odd).isTrivial with
      | true => exact holds_of_isTrivial htriv v
      | false => exact hv _ (mem_eliminateBy_iff.mpr (Or.inl ⟨htriv, c, hc, hxc, rfl⟩))
    · rw [holds_assign hxc]
      exact hv c (mem_eliminateBy_iff.mpr (Or.inr ⟨hc, hxc⟩))
  · rintro ⟨v, hparity, hv⟩
    refine ⟨v, fun c hc => ?_⟩
    rcases mem_eliminateBy_iff.mp hc with ⟨_, d, hd, _, rfl⟩ | ⟨hc, _⟩
    · rw [holds_substitute hx hparity d]
      exact hv d hd
    · exact hv c hc

/-- An elimination that finds a parity replaces the atom under it. -/
theorem eliminate_of_some {x : Nat} {cs : List Constraint} {s : OrdSet Nat} {odd : Bool}
    (h : shortestParity? (cs.filter fun c => c.scope.contains x) = some (s, odd)) :
    eliminate x cs = eliminateBy x s odd cs := by
  simp only [eliminate, eliminateBy, List.partition_eq_filter_filter, h]

theorem eliminate_of_none {x : Nat} {cs : List Constraint}
    (h : shortestParity? (cs.filter fun c => c.scope.contains x) = none) :
    eliminate x cs =
      project x (cs.filter fun c => c.scope.contains x) ::
        cs.filter fun c => !c.scope.contains x := by
  simp only [eliminate, List.partition_eq_filter_filter, h]
  rfl

/-- The parity under which an atom is replaced is one of the constraints and has the atom. -/
theorem parity_mem_of_shortestParity? {x : Nat} {cs : List Constraint} {s : OrdSet Nat} {odd : Bool}
    (h : shortestParity? (cs.filter fun c => c.scope.contains x) = some (s, odd)) :
    parity s odd ∈ cs ∧ x ∈ s := by
  obtain ⟨p, hp, he⟩ := List.mem_filterMap.mp (List.minOn?_mem h)
  obtain ⟨hmem, hx⟩ := List.mem_filter.mp hp
  cases p with
  | parity s' odd' =>
      cases he
      exact ⟨hmem, OrdSet.contains_iff.mp hx⟩
  | table => cases he

/-- **Elimination is exact**: it neither gains nor loses solvability. -/
theorem solvable_eliminate_iff (x : Nat) (cs : List Constraint) :
    Solvable (eliminate x cs) ↔ Solvable cs := by
  cases h : shortestParity? (cs.filter fun c => c.scope.contains x) with
  | some p =>
      obtain ⟨s, odd⟩ := p
      obtain ⟨hmem, hx⟩ := parity_mem_of_shortestParity? h
      rw [eliminate_of_some h, solvable_eliminateBy_iff hx]
      exact ⟨fun ⟨v, _, hv⟩ => ⟨v, hv⟩, fun ⟨v, hv⟩ => ⟨v, hv _ hmem, hv⟩⟩
  | none =>
      rw [eliminate_of_none h]
      constructor
      · rintro ⟨v, hv⟩
        obtain ⟨hproject, hrest⟩ := List.forall_mem_cons.mp hv
        obtain ⟨value, htouching⟩ := holds_project_iff.mp hproject
        refine ⟨assign v x value, fun c hc => ?_⟩
        by_cases hxc : x ∈ c.scope
        · exact htouching c (List.mem_filter.mpr ⟨hc, OrdSet.contains_iff.mpr hxc⟩)
        · rw [holds_assign hxc]
          refine hrest c (List.mem_filter.mpr ⟨hc, ?_⟩)
          rw [Bool.not_eq_true', ← Bool.not_eq_true, OrdSet.contains_iff]
          exact hxc
      · rintro ⟨v, hv⟩
        refine ⟨v, List.forall_mem_cons.mpr ⟨holds_project_iff.mpr ⟨v x, fun c hc => ?_⟩,
          fun c hc => hv c (List.mem_filter.mp hc).1⟩⟩
        rw [assign_self]
        exact hv c (List.mem_filter.mp hc).1

/-! ### Tables depend on some atom -/

/-- A table has some atom in its scope. -/
def Proper : Constraint → Prop
  | parity .. => True
  | table scope .. => ∃ x, x ∈ scope

theorem proper_ofTree (candidates : OrdSet Nat) (tree : DecisionTree)
    (covers : ∀ x, tree.mentions x = true → x ∈ candidates) :
    (ofTree candidates tree covers).Proper := by
  simp only [ofTree]
  split
  · trivial
  · next hnone =>
    cases tree with
    | branch y a b =>
        have hy : (DecisionTree.branch y a b).mentions y = true := by simp [DecisionTree.mentions]
        exact ⟨y, OrdSet.mem_filter.mpr ⟨covers y hy, hy⟩⟩
    | leaf value =>
        have hnil : (candidates.filter (DecisionTree.leaf value).mentions).toList = [] :=
          List.filter_eq_nil_iff.mpr fun x _ => by simp [DecisionTree.mentions]
        rw [hnil] at hnone
        cases hnone

theorem proper_project (x : Nat) (cs : List Constraint) : (project x cs).Proper :=
  proper_ofTree _ _ _

theorem proper_substitute (x : Nat) (s : OrdSet Nat) (odd : Bool) (c : Constraint) :
    (c.substitute x s odd).Proper := by
  cases c with
  | parity => trivial
  | table => exact proper_project x _

theorem proper_of_mem_eliminateBy {x : Nat} {s : OrdSet Nat} {odd : Bool} {cs : List Constraint}
    (h : ∀ c ∈ cs, c.Proper) : ∀ c ∈ eliminateBy x s odd cs, c.Proper := by
  intro c hc
  rcases mem_eliminateBy_iff.mp hc with ⟨_, d, _, _, rfl⟩ | ⟨hc, _⟩
  · exact proper_substitute x s odd d
  · exact h c hc

theorem proper_of_mem_eliminate {x : Nat} {cs : List Constraint} (h : ∀ c ∈ cs, c.Proper) :
    ∀ c ∈ eliminate x cs, c.Proper := by
  cases hs : shortestParity? (cs.filter fun c => c.scope.contains x) with
  | some p =>
      rw [eliminate_of_some hs]
      exact proper_of_mem_eliminateBy h
  | none =>
      rw [eliminate_of_none hs]
      exact List.forall_mem_cons.mpr
        ⟨proper_project x _, fun c hc => h c (List.mem_filter.mp hc).1⟩

end Constraint

end CircuitDiagnosis
