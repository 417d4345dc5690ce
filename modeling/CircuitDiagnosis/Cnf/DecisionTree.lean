import CircuitDiagnosis.Cnf.Basic

/-!
# Decision trees

A decision tree is a Boolean function of numbered atoms: a leaf is a constant, a branch asks for the
value of an atom. The operations keep the atoms of a path in increasing order if they were so, and
leave out a branch whose two sides are the same. `mentions` tells which atoms are asked for; no
operation asks for an atom that its operands do not ask for (`mentions_conj`, `mentions_restrict`,
`mentions_forget`).
-/

namespace CircuitDiagnosis

/-- A Boolean function that asks for the values of atoms one after the other. -/
inductive DecisionTree where
  | leaf (value : Bool)
  | branch (atom : Nat) (ifFalse ifTrue : DecisionTree)
  deriving DecidableEq, Repr, Inhabited

namespace DecisionTree

/-- The value of the function. -/
def eval (valuation : Nat → Bool) : DecisionTree → Bool
  | leaf value => value
  | branch x a b => if valuation x then b.eval valuation else a.eval valuation

/-- Whether the tree asks for an atom. -/
def mentions (x : Nat) : DecisionTree → Bool
  | leaf _ => false
  | branch y a b => x == y || a.mentions x || b.mentions x

/-- A branch, left out if its two sides are the same. -/
def make (x : Nat) (a b : DecisionTree) : DecisionTree := if a = b then a else branch x a b

/-- The function with the opposite value. -/
def negate : DecisionTree → DecisionTree
  | leaf value => leaf !value
  | branch x a b => branch x a.negate b.negate

/-- The conjunction with a branch, given how its two sides are joined with a tree. -/
def conjBranch (x : Nat) (a b : DecisionTree) (conjFalse conjTrue : DecisionTree → DecisionTree) :
    DecisionTree → DecisionTree
  | leaf value => if value then branch x a b else leaf false
  | branch y c d =>
    if x < y then make x (conjFalse (branch y c d)) (conjTrue (branch y c d))
    else if y < x then
      make y (conjBranch x a b conjFalse conjTrue c) (conjBranch x a b conjFalse conjTrue d)
    else make x (conjFalse c) (conjTrue d)

/-- The conjunction of two functions. -/
def conj : DecisionTree → DecisionTree → DecisionTree
  | leaf value, t => if value then t else leaf false
  | branch x a b, t => conjBranch x a b a.conj b.conj t

/-- The disjunction of two functions. -/
def disj (s t : DecisionTree) : DecisionTree := (s.negate.conj t.negate).negate

/-- The function once an atom has a value. -/
def restrict (x : Nat) (value : Bool) : DecisionTree → DecisionTree
  | leaf constant => leaf constant
  | branch y a b =>
    if y = x then if value then b.restrict x value else a.restrict x value
    else make y (a.restrict x value) (b.restrict x value)

/-- Whether some value of an atom makes the function true. -/
def forget (x : Nat) (t : DecisionTree) : DecisionTree :=
  (t.restrict x false).disj (t.restrict x true)

/-- The function that is true if an odd number of the atoms is true, or an even number. -/
def ofParity (odd : Bool) : List Nat → DecisionTree
  | [] => leaf !odd
  | x :: rest => branch x (ofParity odd rest) (ofParity (!odd) rest)

/-- Whether an odd number of the atoms makes the tree true, if it is the tree of a parity. -/
def parity? : DecisionTree → List Nat → Option Bool
  | leaf value, [] => some !value
  | branch x a b, y :: rest =>
    if x = y then
      match a.parity? rest with
      | some odd => if b.parity? rest = some !odd then some odd else none
      | none => none
    else none
  | _, _ => none

/-- The function that is true if a literal holds. -/
def ofLiteral (l : Literal Nat) : DecisionTree := branch l.atom (leaf !l.positive) (leaf l.positive)

/-- The function that is true if a clause holds. -/
def ofClause (c : Clause Nat) : DecisionTree :=
  c.foldr (fun l t => (ofLiteral l).disj t) (leaf false)

/-! ### The value of a tree -/

@[simp] theorem eval_make (v : Nat → Bool) (x : Nat) (a b : DecisionTree) :
    (make x a b).eval v = if v x then b.eval v else a.eval v := by
  unfold make
  split
  · next h => simp [h]
  · rfl

@[simp] theorem eval_negate (v : Nat → Bool) (t : DecisionTree) :
    t.negate.eval v = !t.eval v := by
  induction t with
  | leaf => rfl
  | branch x a b iha ihb => simp only [negate, eval, iha, ihb]; split <;> rfl

@[simp] theorem eval_conj (v : Nat → Bool) (s t : DecisionTree) :
    (s.conj t).eval v = (s.eval v && t.eval v) := by
  induction s generalizing t with
  | leaf value => cases value <;> simp [conj, eval]
  | branch x a b iha ihb =>
    simp only [conj]
    induction t with
    | leaf value => cases value <;> simp [conjBranch, eval]
    | branch y c d ihc ihd =>
      simp only [conjBranch]
      split
      · simp only [eval_make, iha, ihb, eval]; split <;> rfl
      · split
        · simp only [eval_make, ihc, ihd, eval]; split <;> rfl
        · have : x = y := by omega
          subst this
          simp only [eval_make, iha, ihb, eval]; split <;> rfl

@[simp] theorem eval_disj (v : Nat → Bool) (s t : DecisionTree) :
    (s.disj t).eval v = (s.eval v || t.eval v) := by
  simp [disj, Bool.not_and]

/-- Restricting is evaluating with the atom set. -/
theorem eval_restrict (v : Nat → Bool) (x : Nat) (value : Bool) (t : DecisionTree) :
    (t.restrict x value).eval v = t.eval fun y => if y = x then value else v y := by
  induction t with
  | leaf => rfl
  | branch y a b iha ihb =>
    simp only [restrict, eval]
    split
    · cases value <;> simp [*]
    · simp [*]

/-- Forgetting an atom leaves the valuations that some value of the atom completes. -/
theorem eval_forget (v : Nat → Bool) (x : Nat) (t : DecisionTree) :
    (t.forget x).eval v = true ↔
      ∃ value, (t.eval fun y => if y = x then value else v y) = true := by
  simp [forget, eval_restrict]

/-! ### The atoms of a tree -/

theorem mentions_make {x y : Nat} {a b : DecisionTree} (h : (make y a b).mentions x = true) :
    x = y ∨ a.mentions x = true ∨ b.mentions x = true := by
  unfold make at h
  split at h
  · exact .inr (.inl h)
  · simpa [mentions, or_assoc] using h

@[simp] theorem mentions_negate (x : Nat) (t : DecisionTree) :
    t.negate.mentions x = t.mentions x := by
  induction t with
  | leaf => simp [negate, mentions]
  | branch y a b iha ihb => simp [negate, mentions, iha, ihb]

theorem mentions_conj {x : Nat} {s t : DecisionTree} (h : (s.conj t).mentions x = true) :
    s.mentions x = true ∨ t.mentions x = true := by
  induction s generalizing t with
  | leaf value =>
    cases value with
    | false => simp [conj, mentions] at h
    | true => exact .inr (by simpa [conj] using h)
  | branch y a b iha ihb =>
    simp only [conj] at h
    simp only [mentions, Bool.or_eq_true, beq_iff_eq]
    induction t with
    | leaf value =>
      cases value with
      | false => simp [conjBranch, mentions] at h
      | true => simpa [conjBranch, mentions, or_assoc] using h
    | branch z c d ihc ihd =>
      simp only [mentions, Bool.or_eq_true, beq_iff_eq]
      simp only [conjBranch] at h
      split at h
      · rcases mentions_make h with h | h | h
        · simp [h]
        · rcases iha h with h | h
          · simp [h]
          · simp only [mentions, Bool.or_eq_true, beq_iff_eq] at h; exact .inr h
        · rcases ihb h with h | h
          · simp [h]
          · simp only [mentions, Bool.or_eq_true, beq_iff_eq] at h; exact .inr h
      · split at h
        · rcases mentions_make h with h | h | h
          · simp [h]
          · rcases ihc h with h | h
            · exact .inl h
            · simp [h]
          · rcases ihd h with h | h
            · exact .inl h
            · simp [h]
        · rcases mentions_make h with h | h | h
          · simp [h]
          · rcases iha h with h | h <;> simp [h]
          · rcases ihb h with h | h <;> simp [h]

theorem mentions_disj {x : Nat} {s t : DecisionTree} (h : (s.disj t).mentions x = true) :
    s.mentions x = true ∨ t.mentions x = true := by
  have hn : (s.negate.conj t.negate).mentions x = true := by simpa [disj] using h
  simpa using mentions_conj hn

theorem mentions_restrict {x y : Nat} {value : Bool} {t : DecisionTree}
    (h : (t.restrict y value).mentions x = true) : x ≠ y ∧ t.mentions x = true := by
  induction t with
  | leaf => simp [restrict, mentions] at h
  | branch z a b iha ihb =>
    simp only [mentions, Bool.or_eq_true, beq_iff_eq]
    simp only [restrict] at h
    split at h
    · cases value with
      | false => exact ⟨(iha (by simpa using h)).1, by simp [(iha (by simpa using h)).2]⟩
      | true => exact ⟨(ihb (by simpa using h)).1, by simp [(ihb (by simpa using h)).2]⟩
    · next hz =>
      rcases mentions_make h with h | h | h
      · exact ⟨by omega, by simp [h]⟩
      · exact ⟨(iha h).1, by simp [(iha h).2]⟩
      · exact ⟨(ihb h).1, by simp [(ihb h).2]⟩

theorem mentions_forget {x y : Nat} {t : DecisionTree} (h : (t.forget y).mentions x = true) :
    x ≠ y ∧ t.mentions x = true := by
  rcases mentions_disj h with h | h
  · exact mentions_restrict h
  · exact mentions_restrict h

theorem mem_of_mentions_ofParity {x : Nat} {odd : Bool} {l : List Nat}
    (h : (ofParity odd l).mentions x = true) : x ∈ l := by
  induction l generalizing odd with
  | nil => simp [ofParity, mentions] at h
  | cons y rest ih =>
    simp only [ofParity, mentions, Bool.or_eq_true, beq_iff_eq] at h
    rcases h with (h | h) | h
    · simp [h]
    · exact List.mem_cons_of_mem _ (ih h)
    · exact List.mem_cons_of_mem _ (ih h)

theorem exists_of_mentions_ofClause {x : Nat} {c : Clause Nat}
    (h : (ofClause c).mentions x = true) : ∃ l ∈ c, x = l.atom := by
  induction c with
  | nil => simp [ofClause, mentions] at h
  | cons l rest ih =>
    rcases mentions_disj h with h | h
    · exact ⟨l, by simp, by simpa [ofLiteral, mentions] using h⟩
    · obtain ⟨k, hk, hx⟩ := ih h
      exact ⟨k, List.mem_cons_of_mem _ hk, hx⟩

end DecisionTree

end CircuitDiagnosis
