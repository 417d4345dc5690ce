import CircuitDiagnosis.Oracle.Encoder
import CircuitDiagnosis.Proofs.Oracle.Encoding
import Mathlib.Algebra.Ring.Nat
import Mathlib.Data.Finset.Card
import Mathlib.Data.List.Nodup

/-!
# The encoder makes the formula of the query

The steps of an `Encoder` make the same clauses and the same numbers as the formula of a query has.
A later step never changes a number (`idxOf_eraseDups_append`), so after every step the clauses are
those of the formula so far with the numbers of all variables so far (`Encoder.Encodes`). At the end
they are `Query.numberedFormula`, the numbers go along `Query.usedVariables`, and the first dangling
reference is the one of `Query.dangling?` (`Query.encode_eq`). What the clauses say, which numbers
occur in them and how many there are is put together in `Query.encode_exact`.
-/

namespace CircuitDiagnosis

/-! ### Valuations and signals -/

/-- The truth values of the signals and the flags under a valuation of the numbers. -/
def Encoder.valuation (e : Encoder) (w : Nat → Bool) : Valuation :=
  ⟨fun s => w (e.number (.signal s)), fun id => w (e.number (.faultFlag id))⟩

/-- The signals of the components, the observed ones last. -/
def Query.signals (q : Query) : List Signal :=
  q.circuit.components.flatMap (fun c => c.output :: c.inputs) ++ q.observations.map (·.signal)

/-! ### First uses -/

section FirstUses

variable {α : Type} [DecidableEq α]

theorem eraseDups_concat (l : List α) (x : α) :
    (l ++ [x]).eraseDups = if x ∈ l then l.eraseDups else l.eraseDups ++ [x] := by
  rw [List.eraseDups_append]
  split
  · next hx => simp [List.removeAll, hx]
  · next hx => simp [List.removeAll, hx, List.eraseDups_cons]

theorem nodup_eraseDups (l : List α) : l.eraseDups.Nodup := by
  induction l using List.reverseRecOn with
  | nil => exact List.nodup_nil
  | append_singleton l x ih =>
      rw [eraseDups_concat]
      split
      · exact ih
      · next hx =>
          rw [← List.concat_eq_append]
          exact ih.concat fun hmem => hx (List.mem_eraseDups.mp hmem)

/-- What is used later does not change the place of a first use. -/
theorem idxOf_eraseDups_append {l : List α} {x : α} (hx : x ∈ l) (m : List α) :
    (l ++ m).eraseDups.idxOf x = l.eraseDups.idxOf x := by
  rw [List.eraseDups_append]
  exact List.idxOf_append_of_mem (List.mem_eraseDups.mpr hx)

theorem lookup_zipIdx (l : List α) (x : α) (k : Nat) :
    (l.zipIdx k).lookup x = if x ∈ l then some (k + l.idxOf x) else none := by
  induction l generalizing k with
  | nil => rfl
  | cons y rest ih =>
      rw [List.zipIdx_cons, List.lookup_cons]
      by_cases hxy : x = y
      · subst hxy
        simp
      · have hyx : ¬ y = x := fun h => hxy h.symm
        have hne : (x == y) = false := beq_eq_false_iff_ne.mpr hxy
        rw [hne, ih, List.idxOf_cons_ne rest hyx]
        simp only [List.mem_cons, hxy, false_or]
        split
        · congr 1
          omega
        · rfl

end FirstUses

/-! ### What is encoded -/

namespace Encoder

/-- The numbers are given out along the first uses of `used`, and the clauses are those of `f` with
these numbers. -/
structure Encodes (e : Encoder) (used : List Variable) (f : Cnf Variable) : Prop where
  numbers : e.numbers = used.eraseDups.zipIdx
  clauses : e.clauses = f.rename fun x => used.eraseDups.idxOf x
  atoms : ∀ clause ∈ f, ∀ l ∈ clause, l.atom ∈ used

variable {e : Encoder} {used : List Variable} {f : Cnf Variable}

theorem encodes_start : Encodes {} [] [] :=
  ⟨rfl, rfl, fun _ h => nomatch h⟩

namespace Encodes

theorem lookup_eq (h : e.Encodes used f) (x : Variable) :
    e.numbers.lookup x = if x ∈ used then some (used.eraseDups.idxOf x) else none := by
  rw [h.numbers, lookup_zipIdx, Nat.zero_add]
  simp only [List.mem_eraseDups]

theorem length_numbers (h : e.Encodes used f) : e.numbers.length = used.eraseDups.length := by
  rw [h.numbers, List.length_zipIdx]

theorem number_eq (h : e.Encodes used f) (x : Variable) :
    e.number x = used.eraseDups.idxOf x := by
  unfold number
  rw [h.lookup_eq]
  split
  · rfl
  · next hx =>
      rw [Option.getD_none, h.length_numbers]
      exact (List.idxOf_eq_length_iff.mpr fun hmem => hx (List.mem_eraseDups.mp hmem)).symm

/-- Further uses leave the clauses as they are. -/
theorem clauses_append (h : e.Encodes used f) (later : List Variable) :
    e.clauses = f.rename fun x => (used ++ later).eraseDups.idxOf x := by
  rw [h.clauses]
  unfold Cnf.rename
  refine List.map_congr_left fun clause hc => List.map_congr_left fun l hl => ?_
  dsimp only
  rw [idxOf_eraseDups_append (h.atoms clause hc l hl)]

/-- A variable gets the place of its first use, whatever is used later. -/
theorem allot (h : e.Encodes used f) (x : Variable) (later : List Variable) :
    ∃ e' : Encoder, e.allot x = ((used ++ x :: later).eraseDups.idxOf x, e') ∧
      e'.Encodes (used ++ [x]) f := by
  have hatoms : ∀ clause ∈ f, ∀ l ∈ clause, l.atom ∈ used ++ [x] := fun clause hc l hl =>
    List.mem_append_left _ (h.atoms clause hc l hl)
  unfold Encoder.allot
  rw [h.lookup_eq]
  by_cases hx : x ∈ used
  · rw [if_pos hx, idxOf_eraseDups_append hx]
    refine ⟨e, rfl, ?_, h.clauses_append [x], hatoms⟩
    rw [eraseDups_concat, if_pos hx]
    exact h.numbers
  · -- The next number is the place behind all first uses so far.
    have hnext : (used ++ x :: later).eraseDups.idxOf x = e.numbers.length := by
      rw [List.append_cons, idxOf_eraseDups_append (List.mem_append_right _ List.mem_cons_self),
        eraseDups_concat, if_neg hx,
        List.idxOf_append_of_notMem fun hmem => hx (List.mem_eraseDups.mp hmem),
        List.idxOf_cons_self, h.length_numbers, Nat.add_zero]
    rw [if_neg hx, hnext]
    refine ⟨_, rfl, ?_, h.clauses_append [x], hatoms⟩
    rw [eraseDups_concat, if_neg hx, List.zipIdx_append, ← h.numbers, List.zipIdx_singleton,
      Nat.zero_add, ← h.length_numbers]

/-- Clauses over variables that have their numbers are added to the formula. -/
theorem add (h : e.Encodes used f) {g : Cnf Variable}
    (hatoms : ∀ clause ∈ g, ∀ l ∈ clause, l.atom ∈ used) :
    (e.add (g.rename fun x => used.eraseDups.idxOf x)).Encodes used (f ++ g) := by
  refine ⟨h.numbers, ?_, fun clause hc => ?_⟩
  · unfold Encoder.add
    rw [h.clauses]
    unfold Cnf.rename
    rw [List.map_append]
  · rcases List.mem_append.mp hc with hc | hc
    · exact h.atoms clause hc
    · exact hatoms clause hc

theorem fix (h : e.Encodes used f) (x : Variable) (value : Bool) :
    (e.fix x value).Encodes (used ++ [x]) (f ++ [[.fix x value]]) := by
  obtain ⟨e', hallot, he⟩ := h.allot x []
  have hatoms : ∀ clause ∈ [[Literal.fix x value]], ∀ l ∈ clause, l.atom ∈ used ++ [x] := by
    intro clause hc l hl
    rw [List.mem_singleton.mp hc] at hl
    rw [List.mem_singleton.mp hl]
    exact List.mem_append_right _ List.mem_cons_self
  unfold Encoder.fix
  rw [hallot]
  exact he.add hatoms

theorem gate (h : e.Encodes used f) (c : Component) :
    (e.gate c).Encodes (used ++ c.usedVariables) (f ++ c.clausesOver id) := by
  -- Each number is stated as a place among all uses of the component, as `add` expects it.
  obtain ⟨e₁, hflag, h₁⟩ :=
    h.allot (.faultFlag c.id) [.signal c.output, .signal c.first, .signal c.second]
  obtain ⟨e₂, houtput, h₂⟩ := h₁.allot (.signal c.output) [.signal c.first, .signal c.second]
  obtain ⟨e₃, hfirst, h₃⟩ := h₂.allot (.signal c.first) [.signal c.second]
  obtain ⟨e₄, hsecond, h₄⟩ := h₃.allot (.signal c.second) []
  simp only [List.append_assoc, List.cons_append, List.nil_append] at houtput hfirst hsecond h₄
  have hadd := h₄.add fun clause hc l hl =>
    List.mem_append_right used (atom_mem_usedVariables (c := c) hc hl)
  rw [c.rename_clausesOver] at hadd
  unfold Encoder.gate
  rw [hflag]
  dsimp only
  rw [houtput]
  dsimp only
  rw [hfirst]
  dsimp only
  rw [hsecond]
  exact hadd

/-- Steps that each encode something of their own encode all of it together. -/
theorem foldl {α : Type} {act : Encoder → α → Encoder} {uses : α → List Variable}
    {clauses : α → Cnf Variable} (h : e.Encodes used f)
    (hact : ∀ {e used f}, Encodes e used f →
      ∀ a, (act e a).Encodes (used ++ uses a) (f ++ clauses a)) (l : List α) :
    (l.foldl act e).Encodes (used ++ l.flatMap uses) (f ++ l.flatMap clauses) := by
  induction l generalizing e used f with
  | nil => simpa using h
  | cons a rest ih =>
      rw [List.foldl_cons, List.flatMap_cons, List.flatMap_cons, ← List.append_assoc,
        ← List.append_assoc]
      exact ih (hact h a)

end Encodes

/-- Checked steps come to the first error, or do all that they do. -/
theorem foldlM_checked {α : Type} (error? : α → Option OracleError) (act : Encoder → α → Encoder)
    (e : Encoder) (l : List α) :
    l.foldlM (checked error? act) e =
      match l.findSome? error? with
      | some error => .error error
      | none => .ok (l.foldl act e) := by
  induction l generalizing e with
  | nil => rfl
  | cons a rest ih =>
      rw [List.foldlM_cons, List.findSome?_cons, checked]
      cases error? a with
      | some error => rfl
      | none => exact ih (act e a)

end Encoder

/-! ### The whole query -/

namespace Query

variable (q : Query)

/-- The encoder behind all steps, errors aside. -/
def encoder : Encoder :=
  q.faults.flags.foldl (fun e f => e.fix (.faultFlag f.component) f.faulty)
    (q.observations.foldl (fun e o => e.fix (.signal o.signal) o.value)
      (q.circuit.components.foldl Encoder.gate {}))

/-- The steps end at the first dangling reference. -/
theorem encode_eq :
    q.encode =
      match q.dangling? with
      | some error => .error error
      | none => .ok q.encoder := by
  unfold encode dangling?
  simp only [Encoder.foldlM_checked]
  cases q.circuit.components.findSome? q.danglingInput? with
  | some error => rfl
  | none =>
      cases q.observations.findSome? fun o =>
          (unknown? q.circuit o.signal).map OracleError.unknownObserved with
      | some error => rfl
      | none => rfl

/-- The steps make the formula of the query, with its numbers. -/
theorem encodes_encoder :
    q.encoder.Encodes
      (q.circuit.components.flatMap Component.usedVariables ++
        q.observations.map (fun o => Variable.signal o.signal) ++
        q.faults.flags.map fun f => Variable.faultFlag f.component) q.formula := by
  have hcomponents := Encoder.encodes_start.foldl (fun h c => h.gate c) q.circuit.components
  have hobservations :=
    hcomponents.foldl (fun h (o : Observation) => h.fix (.signal o.signal) o.value) q.observations
  have hflags :=
    hobservations.foldl (fun h (f : FaultFlag) => h.fix (.faultFlag f.component) f.faulty)
      q.faults.flags
  simp only [← List.map_eq_flatMap, List.nil_append] at hflags
  exact hflags

theorem length_numberedFormula_eq_sum :
    q.numberedFormula.length =
      (q.circuit.components.map fun c => if c.kind = .xor then 4 else 3).sum +
        q.observations.length + q.faults.flags.length := by
  have hgate : ∀ c : Component, (c.clausesOver id).length = if c.kind = .xor then 4 else 3 := by
    intro c
    unfold Component.clausesOver
    rw [List.length_map]
    cases c.kind <;> rfl
  rw [q.length_numberedFormula]
  unfold formula formulaOver
  rw [List.length_append, List.length_append, List.length_map, List.length_map, List.length_flatMap]
  simp only [hgate]

/-- There is a number for each component and one for each signal. -/
theorem length_usedVariables (h : q.Closed) :
    q.usedVariables.length = q.circuit.size + q.signals.toFinset.card := by
  have hnodup : (q.circuit.ids.map Variable.faultFlag ++
      q.signals.dedup.map Variable.signal).Nodup := by
    refine List.Nodup.append ?_ ?_ ?_
    · exact q.circuit.nodup_ids.map fun _ _ he => Variable.faultFlag.inj he
    · exact (List.nodup_dedup _).map fun _ _ he => Variable.signal.inj he
    · intro x hx hy
      obtain ⟨_, _, rfl⟩ := List.mem_map.mp hx
      obtain ⟨_, _, he⟩ := List.mem_map.mp hy
      cases he
  have hmem : ∀ x, x ∈ q.usedVariables ↔
      x ∈ q.circuit.ids.map Variable.faultFlag ++ q.signals.dedup.map Variable.signal := by
    intro x
    unfold usedVariables
    rw [List.mem_eraseDups]
    cases x with
    | faultFlag id =>
        have hflag : (∃ f ∈ q.faults.flags, f.component = id) → id ∈ q.circuit.ids := by
          rintro ⟨f, hf, rfl⟩
          exact h.flags f hf
        rw [Circuit.ids, List.mem_map] at hflag
        simpa [Component.usedVariables, Circuit.ids, eq_comm] using hflag
    | signal s => simp [Component.usedVariables, signals, Component.inputs]
  have hperm := (List.perm_ext_iff_of_nodup (nodup_eraseDups _) hnodup).mpr hmem
  rw [List.card_toFinset]
  refine hperm.length_eq.trans ?_
  rw [List.length_append, List.length_map, List.length_map]
  unfold Circuit.ids Circuit.size
  rw [List.length_map]

end Query

/-! ### The numbers that occur -/

namespace Cnf

variable {ν : Type} {μ : Type}

/-- The atom occurs in the formula. -/
def Mentions (f : Cnf ν) (x : ν) : Prop := ∃ clause ∈ f, ∃ l ∈ clause, l.atom = x

theorem mentions_append {f g : Cnf ν} {x : ν} :
    Mentions (f ++ g) x ↔ f.Mentions x ∨ g.Mentions x := by
  unfold Mentions
  simp only [List.mem_append, or_and_right, exists_or]

theorem mentions_flatMap {α : Type} {l : List α} {g : α → Cnf ν} {x : ν} :
    Mentions (l.flatMap g) x ↔ ∃ a ∈ l, (g a).Mentions x := by
  unfold Mentions
  simp only [List.mem_flatMap]
  constructor
  · rintro ⟨clause, ⟨a, ha, hc⟩, hx⟩
    exact ⟨a, ha, clause, hc, hx⟩
  · rintro ⟨a, ha, clause, hc, hx⟩
    exact ⟨clause, ⟨a, ha, hc⟩, hx⟩

theorem mentions_rename {name : ν → μ} {f : Cnf ν} {n : μ} :
    (f.rename name).Mentions n ↔ ∃ x, f.Mentions x ∧ name x = n := by
  unfold Mentions rename
  simp only [List.mem_map, exists_exists_and_eq_and]
  constructor
  · rintro ⟨clause, hc, l, hl, hn⟩
    exact ⟨l.atom, ⟨clause, hc, l, hl, rfl⟩, hn⟩
  · rintro ⟨_, ⟨clause, hc, l, hl, rfl⟩, hn⟩
    exact ⟨clause, hc, l, hl, hn⟩

end Cnf

/-- Every gate has a clause over its output and both inputs. -/
theorem GateKind.exists_clause_over {ν : Type} (o a b : ν) (kind : GateKind) :
    ∃ clause ∈ kind.clauses o a b, clause.map Literal.atom = [o, a, b] := by
  cases kind with
  | and => exact ⟨_, .tail _ (.tail _ (.head _)), rfl⟩
  | or => exact ⟨_, .tail _ (.tail _ (.head _)), rfl⟩
  | xor => exact ⟨_, .head _, rfl⟩

theorem mentions_clausesOver {c : Component} {x : Variable} :
    (c.clausesOver id).Mentions x ↔ x ∈ c.usedVariables := by
  constructor
  · rintro ⟨clause, hc, l, hl, rfl⟩
    exact atom_mem_usedVariables hc hl
  · intro hx
    obtain ⟨clause, hc, hatoms⟩ :=
      c.kind.exists_clause_over (Variable.signal c.output) (.signal c.first) (.signal c.second)
    have hmem : x ∈ (Literal.fix (.faultFlag c.id) true :: clause).map Literal.atom := by
      rw [List.map_cons, hatoms]
      exact hx
    obtain ⟨l, hl, rfl⟩ := List.mem_map.mp hmem
    exact ⟨_, List.mem_map_of_mem hc, l, hl, rfl⟩

namespace Query

variable (q : Query)

theorem mentions_formula {x : Variable} : q.formula.Mentions x ↔ x ∈ q.usedVariables := by
  constructor
  · rintro ⟨clause, hc, l, hl, rfl⟩
    exact q.mem_usedVariables_of_mem_formula hc hl
  · intro hx
    unfold usedVariables at hx
    rw [List.mem_eraseDups, List.mem_append, List.mem_append] at hx
    unfold formula formulaOver
    rw [Cnf.mentions_append, Cnf.mentions_append, Cnf.mentions_flatMap]
    refine hx.imp (Or.imp (fun hx => ?_) fun hx => ?_) fun hx => ?_
    · obtain ⟨c, hc, hx⟩ := List.mem_flatMap.mp hx
      exact ⟨c, hc, mentions_clausesOver.mpr hx⟩
    · obtain ⟨o, ho, rfl⟩ := List.mem_map.mp hx
      exact ⟨_, List.mem_map_of_mem ho, _, List.mem_cons_self, rfl⟩
    · obtain ⟨f, hf, rfl⟩ := List.mem_map.mp hx
      exact ⟨_, List.mem_map_of_mem hf, _, List.mem_cons_self, rfl⟩

theorem mentions_numberedFormula {n : Nat} :
    q.numberedFormula.Mentions n ↔ n < q.usedVariables.length := by
  rw [q.numberedFormula_eq_rename, Cnf.mentions_rename]
  simp only [mentions_formula]
  constructor
  · rintro ⟨x, hx, rfl⟩
    exact List.idxOf_lt_length_iff.mpr hx
  · intro hn
    exact ⟨_, List.getElem_mem hn, (nodup_eraseDups _).idxOf_getElem n hn⟩

end Query

/-! ### The encoding is exact -/

/-- **The encoding is exact.** On a query without dangling references the encoder ends with the
clauses that the solver decides. They are the clauses of the query with a number for each variable;
different variables have different numbers, and the numbers that occur are those below the number
of components and of different signals. A valuation of the numbers satisfies the clauses exactly if
each component is faulty or computes its gate function, and each observation and each fixed flag
holds. There are three clauses for each gate, four if it is an exclusive or, and one for each
observation and each fixed flag. -/
theorem Query.encode_exact (q : Query) (h : q.Closed) :
    ∃ e : Encoder, q.encode = .ok e ∧
      (∀ state, solverOracle.ask q state = ⟨.ok (.ofSatisfiable e.clauses.isSatisfiable), state,
        [.querySolved e.numbers.length e.clauses.length]⟩) ∧
      e.clauses = q.formulaOver e.number ∧
      (∀ x y, q.formula.Mentions x → q.formula.Mentions y → (e.number x = e.number y ↔ x = y)) ∧
      e.numbers.length = q.circuit.size + q.signals.toFinset.card ∧
      (∀ n, e.clauses.Mentions n ↔ n < q.circuit.size + q.signals.toFinset.card) ∧
      (∀ w : Nat → Bool, e.clauses.holds w = true ↔ (e.valuation w).Models q) ∧
      e.clauses.length =
        (q.circuit.components.map fun c => if c.kind = .xor then 4 else 3).sum +
          q.observations.length + q.faults.flags.length := by
  have hdangling := q.dangling?_eq_none_iff.mpr h
  have hencodes := q.encodes_encoder
  have hnumber : q.encoder.number = fun x => q.usedVariables.idxOf x := funext hencodes.number_eq
  have hlength : q.encoder.numbers.length = q.usedVariables.length := hencodes.length_numbers
  have hclauses : q.encoder.clauses = q.numberedFormula :=
    hencodes.clauses.trans q.numberedFormula_eq_rename.symm
  refine ⟨q.encoder, ?_, fun state => ?_, ?_, fun x y hx hy => ?_, ?_, fun n => ?_, fun w => ?_, ?_⟩
  · rw [q.encode_eq, hdangling]
  · rw [hlength, hclauses]
    unfold solverOracle Oracle.ofSolver
    dsimp only
    rw [hdangling]
    rfl
  · rw [hclauses, hnumber]
    rfl
  · rw [hnumber]
    exact ⟨q.idxOf_usedVariables_inj (q.mentions_formula.mp hx), fun he => he ▸ rfl⟩
  · rw [hlength, q.length_usedVariables h]
  · rw [hclauses, q.mentions_numberedFormula, q.length_usedVariables h]
  · have hvalue : (q.encoder.valuation w).value = fun x => w (q.encoder.number x) := by
      funext x
      cases x <;> rfl
    rw [← q.holds_formula_iff, hvalue, hnumber, hclauses, q.numberedFormula_eq_rename,
      Cnf.holds_rename]
  · rw [hclauses, q.length_numberedFormula_eq_sum]

/-- An exclusive or of an input with itself, and a gate that reads its own output: two flags, three
signals of these gates and an observed one that no gate reads. -/
theorem Query.encode_exact_repeated_signals :
    let q : Query := ⟨.ofComponents [⟨"X", .xor, .input "a", .input "a"⟩,
      ⟨"G", .and, .output "G", .output "X"⟩], [⟨.input "b", true⟩, ⟨.output "X", false⟩],
      FaultAssignment.empty.setHealthy "X"⟩
    ∃ e : Encoder, q.encode = .ok e ∧ e.clauses.length = 10 ∧ e.clauses.Mentions 5 ∧
      ¬ e.clauses.Mentions 6 := by
  intro q
  obtain ⟨e, he, _, _, _, _, hmentions, _, hlength⟩ :=
    q.encode_exact (q.dangling?_eq_none_iff.mp (by decide))
  have hcount : q.circuit.size + q.signals.toFinset.card = 6 := by decide
  rw [hcount] at hmentions
  exact ⟨e, he, hlength, (hmentions 5).mpr (by decide), mt (hmentions 6).mp (by decide)⟩

end CircuitDiagnosis
