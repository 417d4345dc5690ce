import CircuitDiagnosis.Cnf.Solver
import CircuitDiagnosis.Proofs.Cnf.Elimination

/-!
# The solver decides satisfiability

The constraints of a formula have its satisfying valuations as their solutions
(`Cnf.allHold_constraints_iff`), also after the fixed literals were used
(`Cnf.holds_useFixedLiterals`). Elimination and trial decide whether constraints have a solution
(`Constraint.satisfiable_iff`), and what a search finds out comes with its evidence. Hence
`Cnf.isSatisfiable_iff`: the solver is exactly correct, whichever of its stages gives the answer.
-/

namespace CircuitDiagnosis

namespace Constraint

/-! ### Elimination as long as tables stay small -/

theorem solvable_reduce_iff (cs : List Constraint) : Solvable (reduce cs) ↔ Solvable cs := by
  fun_induction reduce cs with
  | case1 => exact Iff.rfl
  | case2 => exact Iff.rfl
  | case3 cs _ x _ _ _ ih => exact ih.trans (solvable_eliminate_iff x cs)
  | case4 => exact Iff.rfl

theorem proper_of_mem_reduce {cs : List Constraint} (h : ∀ c ∈ cs, c.Proper) :
    ∀ c ∈ reduce cs, c.Proper := by
  fun_induction reduce cs with
  | case1 => exact h
  | case2 => exact h
  | case3 cs _ x _ _ _ ih => exact ih (proper_of_mem_eliminate h)
  | case4 => exact h

/-! ### Constraints without atoms -/

theorem not_solvable_of_isContradiction {cs : List Constraint}
    (h : cs.any isContradiction = true) : ¬ Solvable cs := by
  rintro ⟨v, hv⟩
  obtain ⟨c, hc, hcontra⟩ := List.any_eq_true.mp h
  have hholds := hv c hc
  cases c with
  | parity s odd =>
      simp only [isContradiction, Bool.and_eq_true, OrdSet.isEmpty, List.isEmpty_iff] at hcontra
      rw [holds_parity, hcontra.1, hcontra.2] at hholds
      cases hholds
  | table => cases hcontra

/-- A constraint that depends on no atom is a parity, so it is a contradiction or asks for
nothing. -/
theorem isTrivial_of_scope_eq_empty {c : Constraint} (hproper : c.Proper)
    (hscope : ∀ x, x ∉ c.scope) (h : c.isContradiction = false) : c.isTrivial = true := by
  cases c with
  | table scope tree covers =>
      obtain ⟨x, hx⟩ := hproper
      exact absurd hx (hscope x)
  | parity s odd =>
      have hs : s.toList = [] := List.eq_nil_iff_forall_not_mem.mpr hscope
      simp only [isContradiction, isTrivial, OrdSet.isEmpty, hs, List.isEmpty_nil,
        Bool.true_and] at h ⊢
      rw [h]
      rfl

theorem atoms_eq_nil_of_pick?_eq_none {cs : List Constraint} (h : pick? cs = none) :
    (atoms cs).toList = [] := by
  simp only [pick?] at h
  split at h
  · cases h
  · split at h
    · next hnil => exact hnil
    · cases h

theorem solvable_of_pick?_eq_none {cs : List Constraint} (hproper : ∀ c ∈ cs, c.Proper)
    (hcontra : cs.any isContradiction = false) (h : pick? cs = none) : Solvable cs := by
  refine ⟨fun _ => false, fun c hc => holds_of_isTrivial ?_ _⟩
  refine isTrivial_of_scope_eq_empty (hproper c hc) (fun x hx => ?_) ?_
  · have hatoms : x ∈ atoms cs := mem_atoms.mpr ⟨c, hc, hx⟩
    rw [← OrdSet.mem_toList, atoms_eq_nil_of_pick?_eq_none h] at hatoms
    cases hatoms
  · rw [← Bool.not_eq_true]
    exact List.any_eq_false.mp hcontra c hc

theorem solvable_iff_of_verdict? {cs : List Constraint} {b : Bool} (h : verdict? cs = some b) :
    Solvable cs ↔ b = true := by
  unfold verdict? at h
  split at h
  · next hcontra =>
    cases h
    exact ⟨fun hs => absurd hs (not_solvable_of_isContradiction hcontra), fun hf => by cases hf⟩
  · split at h
    · next htriv =>
      cases h
      refine ⟨fun _ => rfl, fun _ => ⟨fun _ => false, fun c hc => ?_⟩⟩
      exact holds_of_isTrivial (List.all_eq_true.mp htriv c hc) _
    · cases h

/-! ### Trial of both values -/

theorem holds_parity_singleton (v : Nat → Bool) (x : Nat) (value : Bool) :
    (parity (.ofList [x]) value).holds v = true ↔ v x = value := by
  rw [holds_parity, beq_iff_eq]
  change (v x ^^ false) = value ↔ _
  rw [Bool.xor_false]

/-- Constraints have a solution if they have one with one of the two values of an atom. -/
theorem solvable_iff_trial (x : Nat) (cs : List Constraint) :
    Solvable cs ↔ Solvable (eliminateBy x (.ofList [x]) false cs) ∨
      Solvable (eliminateBy x (.ofList [x]) true cs) := by
  have hx : x ∈ OrdSet.ofList [x] := OrdSet.mem_ofList.mpr List.mem_cons_self
  simp only [solvable_eliminateBy_iff hx, holds_parity_singleton]
  constructor
  · rintro ⟨v, hv⟩
    cases hval : v x with
    | false => exact Or.inl ⟨v, hval, hv⟩
    | true => exact Or.inr ⟨v, hval, hv⟩
  · rintro (⟨v, _, hv⟩ | ⟨v, _, hv⟩)
    · exact ⟨v, hv⟩
    · exact ⟨v, hv⟩

/-- Elimination and trial decide whether constraints have a solution. -/
theorem satisfiable_iff {cs : List Constraint} (h : ∀ c ∈ cs, c.Proper) :
    satisfiable cs = true ↔ Solvable cs := by
  fun_induction satisfiable cs with
  | case1 cs core hcontra =>
      rw [← solvable_reduce_iff cs]
      exact ⟨fun hf => (by cases hf),
        fun hs => absurd hs (not_solvable_of_isContradiction hcontra)⟩
  | case2 cs core hcontra hpick =>
      rw [← solvable_reduce_iff cs]
      refine ⟨fun _ => ?_, fun _ => rfl⟩
      exact solvable_of_pick?_eq_none (proper_of_mem_reduce h) (Bool.not_eq_true _ ▸ hcontra) hpick
  | case3 cs core hcontra x _ hpick ihFalse ihTrue =>
      have hcore := proper_of_mem_reduce h
      rw [Bool.or_eq_true, ihFalse (proper_of_mem_eliminateBy hcore),
        ihTrue (proper_of_mem_eliminateBy hcore), ← solvable_reduce_iff cs]
      exact (solvable_iff_trial x (reduce cs)).symm

end Constraint

namespace Cnf

/-! ### From formulas to constraints -/

theorem holds_iff {ν : Type} {v : ν → Bool} {f : Cnf ν} :
    f.holds v = true ↔ ∀ c ∈ f, c.holds v = true := by
  unfold holds
  exact List.all_eq_true

/-- A clause stands before the constraints of the clauses after it, or is joined to their first. -/
theorem constraints_cons_cases (clause : Clause Nat) (rest : Cnf Nat) :
    constraints (clause :: rest) = Constraint.ofClause clause :: constraints rest ∨
      ∃ d tail, constraints rest = d :: tail ∧
        constraints (clause :: rest) = (Constraint.ofClause clause).both d :: tail := by
  unfold constraints
  rw [List.foldr_cons]
  split
  · next hrest => exact Or.inl (by rw [hrest])
  · next d tail hrest =>
    dsimp only
    split
    · exact Or.inr ⟨d, tail, hrest, rfl⟩
    · exact Or.inl (by rw [hrest])

theorem allHold_constraints_iff {v : Nat → Bool} {f : Cnf Nat} :
    Constraint.AllHold v f.constraints ↔ f.holds v = true := by
  induction f with
  | nil => exact ⟨fun _ => rfl, fun _ c hc => by cases hc⟩
  | cons clause rest ih =>
      have hcons : (holds v (clause :: rest) = true) ↔
          (Constraint.ofClause clause).holds v = true ∧ Constraint.AllHold v (constraints rest) := by
        rw [ih, Constraint.holds_ofClause, holds_iff, holds_iff]
        exact List.forall_mem_cons
      rw [hcons]
      unfold Constraint.AllHold
      rcases constraints_cons_cases clause rest with h | ⟨d, tail, hrest, h⟩
      · rw [h]
        exact List.forall_mem_cons
      · rw [h, hrest, List.forall_mem_cons, List.forall_mem_cons, Constraint.holds_both,
          Bool.and_eq_true, and_assoc]

theorem proper_of_mem_constraints (f : Cnf Nat) : ∀ c ∈ f.constraints, c.Proper := by
  induction f with
  | nil => intro c hc; cases hc
  | cons clause rest ih =>
      rcases constraints_cons_cases clause rest with h | ⟨d, tail, hrest, h⟩
      · rw [h]
        exact List.forall_mem_cons.mpr ⟨Constraint.proper_ofTree _ _ _, ih⟩
      · rw [h]
        rw [hrest] at ih
        exact List.forall_mem_cons.mpr
          ⟨Constraint.proper_ofTree _ _ _, (List.forall_mem_cons.mp ih).2⟩

/-! ### Fixed literals -/

theorem mem_fixedLiterals_iff {f : Cnf Nat} {l : Literal Nat} :
    l ∈ f.fixedLiterals ↔ [l] ∈ f := by
  unfold fixedLiterals
  rw [List.mem_filterMap]
  constructor
  · rintro ⟨c, hc, he⟩
    split at he
    · cases he
      exact hc
    · cases he
  · exact fun h => ⟨[l], h, rfl⟩

/-- A value that a fixed literal gives is the value of the atom wherever the fixed literals hold. -/
theorem eq_of_valueIn?_eq_some {v : Nat → Bool} {fixed : List (Literal Nat)}
    (hfixed : ∀ l ∈ fixed, l.holds v = true) {x : Nat} {b : Bool}
    (h : valueIn? fixed x = some b) : v x = b := by
  unfold valueIn? at h
  obtain ⟨l, hl, rfl⟩ := Option.map_eq_some_iff.mp h
  have hx : l.atom = x := by simpa using List.find?_some hl
  have hholds := hfixed l (List.mem_of_find?_eq_some hl)
  rw [← hx]
  exact beq_iff_eq.mp hholds

/-- The clause that is left of a clause, if any, when fixed literals are used. -/
def useIn? (fixed : List (Literal Nat)) : Clause Nat → Option (Clause Nat)
  | [l] => some [l]
  | c =>
    if c.any fun l => valueIn? fixed l.atom == some l.positive then none
    else some (c.filter fun l => (valueIn? fixed l.atom).isNone)

theorem useFixedLiterals_eq (f : Cnf Nat) :
    f.useFixedLiterals = f.filterMap (useIn? f.fixedLiterals) :=
  rfl

theorem useIn?_singleton (fixed : List (Literal Nat)) (l : Literal Nat) :
    useIn? fixed [l] = some [l] :=
  rfl

/-- Where the fixed literals hold, what is left of a clause is as true as the clause. -/
theorem holds_useIn? {v : Nat → Bool} {fixed : List (Literal Nat)}
    (hfixed : ∀ l ∈ fixed, l.holds v = true) (c : Clause Nat) :
    ((useIn? fixed c).all fun d => d.holds v) = c.holds v := by
  unfold useIn?
  split
  · rfl
  · split
    · next hany =>
      obtain ⟨l, hl, hval⟩ := List.any_eq_true.mp hany
      have hv := eq_of_valueIn?_eq_some hfixed (beq_iff_eq.mp hval)
      symm
      exact List.any_eq_true.mpr ⟨l, hl, beq_iff_eq.mpr hv⟩
    · next hany =>
      rw [Bool.eq_iff_iff]
      change Clause.holds v (c.filter _) = true ↔ _
      unfold Clause.holds
      simp only [List.any_eq_true, List.mem_filter, Option.isNone_iff_eq_none]
      constructor
      · rintro ⟨l, ⟨hl, _⟩, ht⟩
        exact ⟨l, hl, ht⟩
      · rintro ⟨l, hl, ht⟩
        refine ⟨l, ⟨hl, ?_⟩, ht⟩
        -- A true literal with a known value would have let the clause be left out.
        cases hval : valueIn? fixed l.atom with
        | none => rfl
        | some b =>
            have hv := eq_of_valueIn?_eq_some hfixed hval
            have hb : b = l.positive := hv.symm.trans (beq_iff_eq.mp ht)
            rw [hb] at hval
            exact (hany (List.any_eq_true.mpr ⟨l, hl, beq_iff_eq.mpr hval⟩)).elim

theorem holds_useFixedLiterals (v : Nat → Bool) (f : Cnf Nat) :
    f.useFixedLiterals.holds v = f.holds v := by
  have hunits : ∀ g : Cnf Nat, (∀ l, [l] ∈ f → [l] ∈ g) → g.holds v = true →
      ∀ l ∈ f.fixedLiterals, l.holds v = true := by
    intro g hg hv l hl
    have hclause := holds_iff.mp hv [l] (hg l (mem_fixedLiterals_iff.mp hl))
    simpa [Clause.holds] using hclause
  rw [useFixedLiterals_eq, Bool.eq_iff_iff]
  constructor
  · intro hv
    have hfixed := hunits _ (fun l hl => List.mem_filterMap.mpr ⟨[l], hl, useIn?_singleton _ l⟩) hv
    refine holds_iff.mpr fun c hc => ?_
    rw [← holds_useIn? hfixed c]
    cases hd : useIn? f.fixedLiterals c with
    | none => rfl
    | some d => exact holds_iff.mp hv d (List.mem_filterMap.mpr ⟨c, hc, hd⟩)
  · intro hv
    have hfixed := hunits f (fun _ hl => hl) hv
    refine holds_iff.mpr fun d hd => ?_
    obtain ⟨c, hc, he⟩ := List.mem_filterMap.mp hd
    have hc := holds_iff.mp hv c hc
    rw [← holds_useIn? hfixed c, he] at hc
    exact hc

/-! ### The solver -/

theorem solvable_core_iff (f : Cnf Nat) :
    Constraint.Solvable (Constraint.reduce f.useFixedLiterals.constraints) ↔ f.Satisfiable := by
  rw [Constraint.solvable_reduce_iff]
  unfold Constraint.Solvable Satisfiable
  simp only [allHold_constraints_iff, holds_useFixedLiterals]

/-- **The solver decides satisfiability.** -/
theorem isSatisfiable_iff (f : Cnf Nat) : f.isSatisfiable = true ↔ f.Satisfiable := by
  unfold isSatisfiable
  split
  · next answer hfound => exact (Finding.satisfiable_iff_of_verdict? hfound).symm
  · dsimp only
    split
    · next answer hfound =>
      rw [← solvable_core_iff f]
      exact (Constraint.solvable_iff_of_verdict? hfound).symm
    · split
      · next answer hfound => exact (Finding.satisfiable_iff_of_verdict? hfound).symm
      · rw [← solvable_core_iff f]
        exact Constraint.satisfiable_iff
          (Constraint.proper_of_mem_reduce (proper_of_mem_constraints _))

end Cnf

end CircuitDiagnosis
