import CircuitDiagnosis.Circuit.Wiring
import CircuitDiagnosis.Oracle.Basic
import CircuitDiagnosis.Proofs.Cnf.Decision

/-!
# The oracle decides the circuit theory

The clauses of a gate say that its output is the gate function of its inputs
(`GateKind.holds_clauses`), so the valuations that satisfy the formula of a query are its models
(`Query.holds_formula_iff`). Numbering the variables is a renaming with an inverse on the variables
that occur, and keeps satisfiability (`Cnf.satisfiable_rename_iff`).

A query has no dangling reference exactly if it is closed (`Query.dangling?_eq_none_iff`), and then
the verdict of the oracle is the truth about it (`Query.verdict_of_closed`): no shape of the
wiring, of the observations or of the fixed flags is excluded. Of the solver this needs only that it
decides every formula (`Cnf.Decides`); all such solvers make one and the same oracle
(`Oracle.ofSolver_eq_solverOracle`).
-/

namespace CircuitDiagnosis

/-! ### Renaming of the atoms -/

namespace Cnf

variable {ν : Type} {μ : Type}

theorem holds_append (w : ν → Bool) (f g : Cnf ν) :
    holds w (f ++ g) = (f.holds w && g.holds w) := by
  unfold holds
  exact List.all_append

theorem holds_rename (name : ν → μ) (w : μ → Bool) (f : Cnf ν) :
    (f.rename name).holds w = f.holds fun x => w (name x) := by
  unfold rename holds Clause.holds Literal.holds
  simp only [List.all_map, List.any_map, Function.comp_def]

theorem holds_clause_congr {w w' : ν → Bool} {c : Clause ν} (h : ∀ l ∈ c, w l.atom = w' l.atom) :
    c.holds w = c.holds w' := by
  induction c with
  | nil => rfl
  | cons l rest ih =>
      obtain ⟨hl, hrest⟩ := List.forall_mem_cons.mp h
      unfold Clause.holds Literal.holds at ih ⊢
      rw [List.any_cons, List.any_cons, hl, ih hrest]

/-- A formula only looks at its atoms. -/
theorem holds_congr {w w' : ν → Bool} {f : Cnf ν} (h : ∀ c ∈ f, ∀ l ∈ c, w l.atom = w' l.atom) :
    f.holds w = f.holds w' := by
  induction f with
  | nil => rfl
  | cons c rest ih =>
      obtain ⟨hc, hrest⟩ := List.forall_mem_cons.mp h
      unfold holds at ih ⊢
      rw [List.all_cons, List.all_cons, holds_clause_congr hc, ih hrest]

/-- A renaming that can be undone on the atoms of a formula keeps satisfiability. -/
theorem satisfiable_rename_iff {name : ν → μ} (back : μ → ν) {f : Cnf ν}
    (h : ∀ c ∈ f, ∀ l ∈ c, back (name l.atom) = l.atom) :
    (f.rename name).Satisfiable ↔ f.Satisfiable := by
  constructor
  · rintro ⟨w, hw⟩
    rw [holds_rename] at hw
    exact ⟨_, hw⟩
  · rintro ⟨w, hw⟩
    refine ⟨fun n => w (back n), ?_⟩
    rw [holds_rename, ← hw]
    exact holds_congr fun c hc l hl => congrArg w (h c hc l hl)

end Cnf

/-! ### The clauses of a component -/

/-- The clauses of a gate hold exactly where its output is the gate function of its inputs. -/
theorem GateKind.holds_clauses {ν : Type} (w : ν → Bool) (o a b : ν) (kind : GateKind) :
    (kind.clauses o a b).holds w = (w o == kind.evaluate (w a) (w b)) := by
  cases kind <;> simp only [clauses, evaluate, Literal.fix, Cnf.holds, Clause.holds, Literal.holds,
    List.all_cons, List.all_nil, List.any_cons, List.any_nil] <;>
    cases w o <;> cases w a <;> cases w b <;> rfl

/-- A literal that is added to each clause of a formula is an alternative to the formula. -/
theorem Cnf.holds_map_cons {ν : Type} (w : ν → Bool) (l : Literal ν) (f : Cnf ν) :
    Cnf.holds w (f.map fun c => l :: c) = (l.holds w || f.holds w) := by
  rw [Bool.eq_iff_iff, Cnf.holds_iff, Bool.or_eq_true, Cnf.holds_iff]
  simp only [List.forall_mem_map, Clause.holds, List.any_cons, Bool.or_eq_true]
  constructor
  · intro h
    cases hl : l.holds w with
    | true => exact Or.inl rfl
    | false => exact Or.inr fun c hc => (h c hc).resolve_left (by rw [hl]; exact Bool.false_ne_true)
  · rintro (hl | hf) c hc
    · exact Or.inl hl
    · exact Or.inr (hf c hc)

theorem GateKind.atom_mem_of_mem_clauses {ν : Type} {o a b : ν} {kind : GateKind} {c : Clause ν}
    {l : Literal ν} (hc : c ∈ kind.clauses o a b) (hl : l ∈ c) : l.atom ∈ [o, a, b] := by
  cases kind <;> simp only [clauses, List.mem_cons, List.not_mem_nil, or_false] at hc <;>
    rcases hc with rfl | rfl | rfl | rfl <;>
    simp only [Literal.fix, List.mem_cons, List.not_mem_nil, or_false] at hl <;>
    rcases hl with rfl | rfl | rfl <;> simp

/-- The clauses of a component hold exactly where it obeys its gate function. -/
theorem holds_clausesOver_iff (v : Valuation) (c : Component) :
    (c.clausesOver id).holds v.value = true ↔ v.Obeys c := by
  unfold Component.clausesOver
  rw [Cnf.holds_map_cons, GateKind.holds_clauses, Bool.or_eq_true, beq_iff_eq]
  unfold Valuation.Obeys Literal.holds Literal.fix
  rw [beq_iff_eq]
  rfl

theorem atom_mem_usedVariables {c : Component} {clause : Clause Variable} {l : Literal Variable}
    (hc : clause ∈ c.clausesOver id) (hl : l ∈ clause) : l.atom ∈ c.usedVariables := by
  unfold Component.clausesOver at hc
  obtain ⟨d, hd, rfl⟩ := List.mem_map.mp hc
  rcases List.mem_cons.mp hl with rfl | hl
  · exact List.mem_cons_self
  · exact List.mem_cons_of_mem _ (GateKind.atom_mem_of_mem_clauses hd hl)

namespace Query

variable (q : Query)

/-! ### The formula of a query -/

/-- The valuations that satisfy the formula are the models of the query. -/
theorem holds_formula_iff (v : Valuation) : q.formula.holds v.value = true ↔ v.Models q := by
  unfold formula formulaOver
  rw [Cnf.holds_append, Cnf.holds_append, Bool.and_eq_true, Bool.and_eq_true, Cnf.holds_iff,
    Cnf.holds_iff, Cnf.holds_iff]
  have hobeys : (∀ d ∈ q.circuit.components.flatMap (Component.clausesOver id),
      Clause.holds v.value d = true) ↔ ∀ c ∈ q.circuit.components, v.Obeys c := by
    simp only [← holds_clausesOver_iff, Cnf.holds_iff, List.mem_flatMap]
    constructor
    · exact fun h c hc d hd => h d ⟨c, hc, hd⟩
    · rintro h d ⟨c, hc, hd⟩
      exact h c hc d hd
  rw [hobeys]
  simp only [List.forall_mem_map, Clause.holds, List.any_cons, List.any_nil, Bool.or_false,
    Literal.holds, Literal.fix, beq_iff_eq, Valuation.value, id]
  constructor
  · rintro ⟨⟨ho, hs⟩, hf⟩
    exact ⟨ho, hs, hf⟩
  · rintro ⟨ho, hs, hf⟩
    exact ⟨⟨ho, hs⟩, hf⟩

/-- Every valuation of the variables is that of the signals and the flags. -/
theorem satisfiable_formula_iff : q.formula.Satisfiable ↔ q.Consistent := by
  constructor
  · rintro ⟨w, hw⟩
    let v : Valuation := ⟨fun s => w (.signal s), fun c => w (.faultFlag c)⟩
    have hv : v.value = w := by
      funext x
      cases x <;> rfl
    refine ⟨v, (q.holds_formula_iff v).mp ?_⟩
    rw [hv]
    exact hw
  · rintro ⟨v, hv⟩
    exact ⟨v.value, (q.holds_formula_iff v).mpr hv⟩

/-! ### The numbers of the variables -/

theorem mem_usedVariables_of_mem_formula {clause : Clause Variable} {l : Literal Variable}
    (hc : clause ∈ q.formula) (hl : l ∈ clause) : l.atom ∈ q.usedVariables := by
  unfold usedVariables
  rw [List.mem_eraseDups]
  unfold formula formulaOver at hc
  rcases List.mem_append.mp hc with hc | hc
  · rcases List.mem_append.mp hc with hc | hc
    · obtain ⟨c, hmem, hc⟩ := List.mem_flatMap.mp hc
      refine List.mem_append_left _ (List.mem_append_left _ (List.mem_flatMap.mpr ⟨c, hmem, ?_⟩))
      exact atom_mem_usedVariables hc hl
    · obtain ⟨o, ho, rfl⟩ := List.mem_map.mp hc
      rw [List.mem_singleton.mp hl]
      exact List.mem_append_left _ (List.mem_append_right _ (List.mem_map_of_mem ho))
  · obtain ⟨f, hf, rfl⟩ := List.mem_map.mp hc
    rw [List.mem_singleton.mp hl]
    exact List.mem_append_right _ (List.mem_map_of_mem hf)

/-- The variable of a number. -/
def variableAt (n : Nat) : Variable := q.usedVariables.getD n (.faultFlag "")

theorem variableAt_idxOf {x : Variable} (h : x ∈ q.usedVariables) :
    q.variableAt (q.usedVariables.idxOf x) = x := by
  have hlt := List.idxOf_lt_length_iff.mpr h
  unfold variableAt
  rw [List.getD_eq_getElem?_getD, List.getElem?_eq_getElem hlt]
  exact List.getElem_idxOf hlt

/-- Different variables have different numbers. -/
theorem idxOf_usedVariables_inj {x y : Variable} (hx : x ∈ q.usedVariables)
    (h : q.usedVariables.idxOf x = q.usedVariables.idxOf y) : x = y := by
  have hy : y ∈ q.usedVariables := by
    rw [← List.idxOf_lt_length_iff, ← h]
    exact List.idxOf_lt_length_iff.mpr hx
  rw [← q.variableAt_idxOf hx, h, q.variableAt_idxOf hy]

theorem satisfiable_numberedFormula_iff : q.numberedFormula.Satisfiable ↔ q.Consistent := by
  rw [q.numberedFormula_eq_rename, ← q.satisfiable_formula_iff]
  refine Cnf.satisfiable_rename_iff q.variableAt fun c hc l hl => ?_
  exact q.variableAt_idxOf (q.mem_usedVariables_of_mem_formula hc hl)

end Query

/-! ### The solver -/

section Solver

variable {solver : Cnf Nat → Except String Bool}

/-- The solver tells of every formula whether it is satisfiable, and never fails. -/
def Cnf.Decides (solver : Cnf Nat → Except String Bool) : Prop :=
  ∀ f : Cnf Nat, ∃ answer, solver f = .ok answer ∧ (answer = true ↔ f.Satisfiable)

theorem Cnf.decides_isSatisfiable : Cnf.Decides fun f => .ok f.isSatisfiable :=
  fun f => ⟨_, rfl, f.isSatisfiable_iff⟩

namespace Oracle

/-- All solvers that decide the formulas make the same oracle. -/
theorem ofSolver_eq_solverOracle (h : Cnf.Decides solver) : ofSolver solver = solverOracle := by
  have heq : solver = fun f => .ok f.isSatisfiable := by
    funext f
    obtain ⟨answer, hanswer, hiff⟩ := h f
    rw [hanswer, Bool.eq_iff_iff.mpr (hiff.trans f.isSatisfiable_iff.symm)]
  rw [heq]
  rfl

theorem verdict_ask_ofSolver (h : Cnf.Decides solver) (q : Query) (state : Unit) :
    ((ofSolver solver).ask q state).verdict = q.verdict := by
  rw [ofSolver_eq_solverOracle h]
  unfold solverOracle ofSolver Query.verdict
  dsimp only
  split <;> rfl

end Oracle

theorem verdict_ask_solverOracle (q : Query) (state : Unit) :
    (solverOracle.ask q state).verdict = q.verdict :=
  Oracle.verdict_ask_ofSolver Cnf.decides_isSatisfiable q state

end Solver

/-! ### The verdict -/

namespace Query

variable (q : Query)

theorem solve_eq_satisfiable_iff : q.solve = .satisfiable ↔ q.Consistent := by
  rw [← q.satisfiable_numberedFormula_iff, ← Cnf.isSatisfiable_iff]
  unfold solve
  cases q.numberedFormula.isSatisfiable
  · exact ⟨fun h => (by cases h), fun h => (by cases h)⟩
  · exact ⟨fun _ => rfl, fun _ => rfl⟩

theorem solve_eq_unsatisfiable_iff : q.solve = .unsatisfiable ↔ ¬ q.Consistent := by
  rw [← q.solve_eq_satisfiable_iff]
  cases q.solve
  · exact ⟨fun h => (by cases h), fun h => absurd rfl h⟩
  · exact ⟨fun _ h => (by cases h), fun _ => rfl⟩

/-- Queries that are both consistent or both not are solved alike. -/
theorem solve_eq_of_consistent_iff {q r : Query} (h : q.Consistent ↔ r.Consistent) :
    q.solve = r.solve := by
  cases hq : q.solve with
  | satisfiable =>
      rw [solve_eq_satisfiable_iff, h] at hq
      exact (r.solve_eq_satisfiable_iff.mpr hq).symm
  | unsatisfiable =>
      rw [solve_eq_unsatisfiable_iff, h] at hq
      exact (r.solve_eq_unsatisfiable_iff.mpr hq).symm

/-- Each signal and each fixed flag that the query refers to is one of the circuit. -/
structure Closed : Prop where
  wiring : q.circuit.Closed
  observed : ∀ o ∈ q.observations, ∀ id, o.signal = .output id → id ∈ q.circuit.ids
  flags : ∀ f ∈ q.faults.flags, f.component ∈ q.circuit.ids

theorem unknown?_eq_none_iff {circuit : Circuit} {s : Signal} :
    unknown? circuit s = none ↔ ∀ id, s = .output id → id ∈ circuit.ids := by
  cases s with
  | input name => exact ⟨fun _ id h => (by cases h), fun _ => rfl⟩
  | output id =>
      have hif : unknown? circuit (.output id) = none ↔ circuit.contains id = true := by
        unfold unknown?
        split <;> simp_all
      rw [hif, Circuit.contains_iff]
      constructor
      · intro h id' he
        cases he
        exact h
      · exact fun h => h id rfl

theorem danglingInput?_eq_none_iff {c : Component} :
    q.danglingInput? c = none ↔ ∀ s ∈ c.inputs, unknown? q.circuit s = none := by
  unfold danglingInput?
  rw [Option.map_eq_none_iff, List.findSome?_eq_none_iff]

theorem circuit_closed_iff {circuit : Circuit} :
    circuit.Closed ↔ ∀ c ∈ circuit.components, ∀ s ∈ c.inputs, unknown? circuit s = none := by
  simp only [unknown?_eq_none_iff]
  constructor
  · rintro h c hc s hs id rfl
    exact h c.id id ⟨c, hc, rfl, hs⟩
  · rintro h _ id ⟨c, hc, _, hs⟩
    exact h c hc _ hs id rfl

/-- The check for dangling references finds none exactly in the closed queries. -/
theorem dangling?_eq_none_iff : q.dangling? = none ↔ q.Closed := by
  unfold dangling?
  rw [Option.or_eq_none_iff, Option.or_eq_none_iff, List.findSome?_eq_none_iff,
    List.findSome?_eq_none_iff, List.findSome?_eq_none_iff]
  have hflag : ∀ f : FaultFlag, ((if q.circuit.contains f.component then none
      else some (OracleError.unknownFaultFlag f.component)) = none) ↔
        f.component ∈ q.circuit.ids := by
    intro f
    rw [← Circuit.contains_iff]
    split <;> simp_all
  simp only [danglingInput?_eq_none_iff, Option.map_eq_none_iff, hflag]
  rw [← circuit_closed_iff]
  simp only [unknown?_eq_none_iff]
  constructor
  · rintro ⟨hw, ho, hf⟩
    exact ⟨hw, ho, hf⟩
  · rintro ⟨hw, ho, hf⟩
    exact ⟨hw, ho, hf⟩

theorem verdict_of_closed (h : q.Closed) : q.verdict = .ok q.solve := by
  unfold verdict
  rw [q.dangling?_eq_none_iff.mpr h]

/-- Only closed queries get a verdict. -/
theorem closed_of_verdict_eq_ok {q : Query} {v : Verdict} (h : q.verdict = .ok v) : q.Closed := by
  refine q.dangling?_eq_none_iff.mp ?_
  unfold verdict at h
  split at h
  · cases h
  · next hnone => exact hnone

theorem ask_eq_satisfiable_iff {q : Query} (h : q.Closed) (state : Unit) :
    (solverOracle.ask q state).verdict = .ok .satisfiable ↔ q.Consistent := by
  rw [verdict_ask_solverOracle, q.verdict_of_closed h, Except.ok.injEq, q.solve_eq_satisfiable_iff]

theorem ask_eq_unsatisfiable_iff {q : Query} (h : q.Closed) (state : Unit) :
    (solverOracle.ask q state).verdict = .ok .unsatisfiable ↔ ¬ q.Consistent := by
  rw [verdict_ask_solverOracle, q.verdict_of_closed h, Except.ok.injEq,
    q.solve_eq_unsatisfiable_iff]

end Query

/-- **The oracle is exact** on queries without dangling references: it answers that the query is
satisfiable if some truth values of all signals and flags agree with it, and unsatisfiable
otherwise. An input named like the text of an output is a variable of its own. -/
theorem verdict_solverOracle_iff_consistent (q : Query) (state : Unit) (h : q.Closed) :
    ((solverOracle.ask q state).verdict = .ok .satisfiable ↔ q.Consistent) ∧
      ((solverOracle.ask q state).verdict = .ok .unsatisfiable ↔ ¬ q.Consistent) ∧
      ∀ id, .signal (.output id) ∈ q.usedVariables →
        q.usedVariables.idxOf (.signal (.output id)) ≠
          q.usedVariables.idxOf (.signal (.input (Signal.output id).text)) := by
  refine ⟨Query.ask_eq_satisfiable_iff h state, Query.ask_eq_unsatisfiable_iff h state,
    fun id hid he => ?_⟩
  cases q.idxOf_usedVariables_inj hid he

/-- A gate that reads only its own output, while an input named like that output is seen to have the
other value. -/
theorem verdict_solverOracle_iff_consistent_self_loop :
    (solverOracle.ask
      ⟨.ofComponents [⟨"G", .xor, .output "G", .output "G"⟩],
        [⟨.input "OUT(G)", true⟩, ⟨.output "G", false⟩], .empty⟩ ()).verdict =
      .ok .satisfiable := by
  refine (verdict_solverOracle_iff_consistent _ () ?_).1.mpr ?_
  · exact (Query.dangling?_eq_none_iff _).mp (by decide)
  · refine ⟨⟨fun s => s == .input "OUT(G)", fun _ => false⟩, ?_, ?_, ?_⟩
    · intro c hc
      rw [List.mem_singleton.mp hc]
      exact Or.inr rfl
    · intro o ho
      rcases List.mem_cons.mp ho with rfl | ho
      · rfl
      · rw [List.mem_singleton.mp ho]
        rfl
    · intro f hf
      cases hf

end CircuitDiagnosis
