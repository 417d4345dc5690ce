import CircuitDiagnosis.Cnf.Basic

/-!
# Consequences of a formula

A consequence of a formula is a clause that is true wherever the formula is. New ones are found by
unit propagation: take all literals of a clause as false and go through known consequences; one that
has a single literal left makes that literal true, and one that has none left shows that the clause
was a consequence too (`Consequence.derive?`). A formula with the empty clause among its
consequences has no satisfying valuation (`holds_eq_false_of_nil`).
-/

namespace CircuitDiagnosis

namespace Cnf

/-- A clause that is true wherever the formula is. -/
structure Consequence (f : Cnf Nat) where
  clause : Clause Nat
  follows : ∀ v, f.holds v = true → clause.holds v = true

/-- The values that are known of atoms. -/
abbrev Knowledge := Array (Option Bool)

namespace Knowledge

/-- What is known of an atom. -/
def value? (known : Knowledge) (x : Nat) : Option Bool := known.getD x none

/-- Makes a literal true. -/
def learn (known : Knowledge) (l : Literal Nat) : Knowledge :=
  known.setIfInBounds l.atom (some l.positive)

/-- Makes a literal false. -/
def refute (known : Knowledge) (l : Literal Nat) : Knowledge :=
  known.setIfInBounds l.atom (some !l.positive)

/-- The literals of a clause that are not known to be false. -/
def remaining (known : Knowledge) (c : Clause Nat) : Clause Nat :=
  c.filter fun l => known.value? l.atom != some !l.positive

/-- A valuation gives every atom the value that is known. -/
def Agrees (known : Knowledge) (v : Nat → Bool) : Prop :=
  ∀ x b, known.value? x = some b → v x = b

theorem agrees_replicate (size : Nat) (v : Nat → Bool) :
    Agrees (Array.replicate size none) v := by
  intro x b h
  simp [value?, Array.getD_eq_getD_getElem?, Array.getElem?_replicate] at h
  split at h <;> simp at h

theorem Agrees.setIfInBounds {known : Knowledge} {v : Nat → Bool} (h : Agrees known v) (x : Nat) :
    Agrees (known.setIfInBounds x (some (v x))) v := by
  intro y b hy
  simp only [value?, Array.getD_eq_getD_getElem?, Array.getElem?_setIfInBounds] at hy
  split at hy
  · next e =>
    split at hy
    · simpa [e] using hy
    · simp at hy
  · exact h y b (by simpa [value?, Array.getD_eq_getD_getElem?] using hy)

theorem Agrees.learn {known : Knowledge} {v : Nat → Bool} (h : Agrees known v) {l : Literal Nat}
    (hl : l.holds v = true) : Agrees (known.learn l) v := by
  have e : v l.atom = l.positive := by simpa [Literal.holds] using hl
  rw [Knowledge.learn, ← e]
  exact h.setIfInBounds l.atom

theorem Agrees.refute {known : Knowledge} {v : Nat → Bool} (h : Agrees known v) {l : Literal Nat}
    (hl : l.holds v = false) : Agrees (known.refute l) v := by
  have e : (!l.positive) = v l.atom := by
    simp only [Literal.holds, beq_eq_false_iff_ne, ne_eq] at hl
    cases hp : l.positive <;> cases hv : v l.atom <;> simp_all
  rw [Knowledge.refute, e]
  exact h.setIfInBounds l.atom

theorem holds_remaining {known : Knowledge} {v : Nat → Bool} (h : Agrees known v)
    (c : Clause Nat) : (remaining known c).holds v = c.holds v := by
  rw [Bool.eq_iff_iff]
  simp only [Clause.holds, remaining, List.any_eq_true, List.mem_filter, bne_iff_ne, ne_eq]
  refine ⟨fun ⟨l, ⟨hl, _⟩, ht⟩ => ⟨l, hl, ht⟩, fun ⟨l, hl, ht⟩ => ⟨l, ⟨hl, fun e => ?_⟩, ht⟩⟩
  have := h _ _ e
  simp [Literal.holds, this] at ht

end Knowledge

namespace Consequence

variable {f : Cnf Nat}

/-- The clauses of a formula, without repeated literals, are consequences. -/
def ofFormula (f : Cnf Nat) : List (Consequence f) :=
  f.attach.map fun ⟨c, hc⟩ =>
    { clause := c.eraseDups
      follows := fun v hv => by
        have := List.all_eq_true.1 hv c hc
        simpa [Clause.holds] using this }

/-- Whether unit propagation with the consequences, in their order, contradicts what is known. -/
def contradict (known : Knowledge) : List (Consequence f) → Bool
  | [] => false
  | c :: rest =>
    match known.remaining c.clause with
    | [] => true
    | [l] => contradict (known.learn l) rest
    | _ => contradict known rest

theorem contradict_eq_false {v : Nat → Bool} (hv : f.holds v = true) {known : Knowledge}
    (h : known.Agrees v) (cs : List (Consequence f)) : contradict known cs = false := by
  induction cs generalizing known with
  | nil => rfl
  | cons c rest ih =>
    have hc : (known.remaining c.clause).holds v = true := by
      rw [Knowledge.holds_remaining h]; exact c.follows v hv
    simp only [contradict]
    split
    · next e => simp [e, Clause.holds] at hc
    · next l e => exact ih (h.learn (by simpa [e, Clause.holds] using hc))
    · exact ih h

/-- What is known of `size` atoms when all literals of a clause are false. -/
def denied (size : Nat) (c : Clause Nat) : Knowledge :=
  c.foldl Knowledge.refute (.replicate size none)

theorem agrees_denied {v : Nat → Bool} {c : Clause Nat} (h : c.holds v = false) (size : Nat) :
    (denied size c).Agrees v := by
  have : ∀ known : Knowledge, known.Agrees v → (c.foldl Knowledge.refute known).Agrees v := by
    induction c with
    | nil => exact fun _ h => h
    | cons l rest ih =>
      simp only [Clause.holds, List.any_cons, Bool.or_eq_false_iff] at h
      exact fun known hk => ih h.2 _ (hk.refute h.1)
  exact this _ (Knowledge.agrees_replicate size v)

/-- A clause is a consequence if its denial contradicts others; values of atoms from `size` on are
not looked at. -/
def derive? (size : Nat) (c : Clause Nat) (hints : List (Consequence f)) :
    Option (Consequence f) :=
  if h : contradict (denied size c) hints = true then
    some
      { clause := c
        follows := fun v hv => by
          cases hc : c.holds v with
          | true => rfl
          | false => simp [contradict_eq_false hv (agrees_denied hc size)] at h }
  else none

theorem holds_eq_false_of_nil {c : Consequence f} (h : c.clause = []) (v : Nat → Bool) :
    f.holds v = false := by
  cases hv : f.holds v with
  | false => rfl
  | true => have := c.follows v hv; simp [h, Clause.holds] at this

end Consequence

end Cnf

end CircuitDiagnosis
