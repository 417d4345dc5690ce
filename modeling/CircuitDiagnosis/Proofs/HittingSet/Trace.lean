import CircuitDiagnosis.Proofs.HittingSet.Limit
import Mathlib.Data.List.Infix

/-!
# The states of a walk in a row

`SearchState.after` is the state after a number of visits. Every run goes along these states,
whatever its stop rule (`SearchState.exists_endsAfter_run`); the rule only decides how far. With a
limit it goes up to the limit or to the end of the walk, whichever comes first
(`SearchState.EndsAfter.eq_min`), and the visits made until then are the first ones of the whole
walk (`SearchState.visits_after_prefix`).

If the choices of the selector do not depend on its state then neither do the visits
(`SearchState.after_selector`).
-/

namespace CircuitDiagnosis

open Std (TransOrd LawfulEqOrd)

universe u

namespace SearchState

variable {α : Type u} [Ord α] [TransOrd α] {σ τ : Type}

section Trace

variable (conflicts : List (OrdSet α)) (selector : Selector α σ)

/-- Visits the next path, if there is one. -/
def next (st : SearchState α σ) : SearchState α σ :=
  match st.pending with
  | [] => st
  | path :: rest => st.visit conflicts selector path rest

/-- The state after a number of visits; at the end of the walk it stays. -/
def after (st : SearchState α σ) : Nat → SearchState α σ
  | 0 => st
  | n + 1 => (after st n).next conflicts selector

theorem next_of_nil {st : SearchState α σ} (h : st.pending = []) :
    st.next conflicts selector = st := by
  unfold next
  rw [h]

theorem next_of_cons {st : SearchState α σ} {path : OrdSet α} {rest : List (OrdSet α)}
    (h : st.pending = path :: rest) :
    st.next conflicts selector = st.visit conflicts selector path rest := by
  unfold next
  rw [h]

/-- A visit is added behind those made before. -/
theorem visits_next [LawfulEqOrd α] {st : SearchState α σ} (h : st.pending ≠ []) :
    ∃ v, (st.next conflicts selector).visits = st.visits.push v := by
  obtain ⟨path, rest, hp⟩ := List.exists_cons_of_ne_nil h
  rw [next_of_cons conflicts selector hp]
  obtain ⟨v, _, hv, _⟩ := exists_visits_visit conflicts selector path rest st
  exact ⟨v, hv⟩

/-- The visits made first stay the first ones. -/
theorem visits_after_prefix [LawfulEqOrd α] (st : SearchState α σ) {m n : Nat} (h : m ≤ n) :
    (st.after conflicts selector m).visits.toList <+:
      (st.after conflicts selector n).visits.toList := by
  induction h with
  | refl => exact List.prefix_rfl
  | @step n _ ih =>
      refine ih.trans ?_
      change _ <+: ((st.after conflicts selector n).next conflicts selector).visits.toList
      by_cases hp : (st.after conflicts selector n).pending = []
      · rw [next_of_nil conflicts selector hp]
      · obtain ⟨v, hv⟩ := visits_next conflicts selector hp
        rw [hv, Array.toList_push]
        exact List.prefix_append _ _

/-- An invariant of the visits holds of all states of the walk. -/
theorem after_preserves [LawfulEqOrd α] {I : SearchState α σ → Prop}
    (hvisit : ∀ st path rest, st.pending = path :: rest → I st →
      I (st.visit conflicts selector path rest))
    {st : SearchState α σ} (h : I st) (n : Nat) : I (st.after conflicts selector n) := by
  induction n with
  | zero => exact h
  | succ n ih =>
      change I ((st.after conflicts selector n).next conflicts selector)
      cases hp : (st.after conflicts selector n).pending with
      | nil =>
          rw [next_of_nil conflicts selector hp]
          exact ih
      | cons path rest =>
          rw [next_of_cons conflicts selector hp]
          exact hvisit _ path rest hp ih

/-- As long as paths are pending, each step is one visit. -/
theorem size_visits_after [LawfulEqOrd α] (st : SearchState α σ) {n : Nat}
    (h : ∀ k < n, (st.after conflicts selector k).pending ≠ []) :
    (st.after conflicts selector n).visits.size = st.visits.size + n := by
  induction n with
  | zero => rfl
  | succ n ih =>
      obtain ⟨v, hv⟩ := visits_next conflicts selector (h n (Nat.lt_succ_self n))
      have hsize := ih fun k hk => h k (Nat.lt_succ_of_lt hk)
      change ((st.after conflicts selector n).next conflicts selector).visits.size = _
      rw [hv, Array.size_push, hsize, Nat.add_assoc]

end Trace

/-! ### Where a run ends -/

section End

variable (conflicts : List (OrdSet α)) (selector : Selector α σ) (rule : StopRule τ)

/-- Under the rule the walk ends with a status after a number of visits. -/
structure EndsAfter (st : SearchState α σ) (stop : τ) (n : Nat) (status : SearchStatus) : Prop where
  /-- Before, there always is a pending path and the rule lets the walk go on. -/
  goes : ∀ k < n, (st.after conflicts selector k).pending ≠ [] ∧
    (rule.shouldStop (rule.stateAfter stop k)).1 = false
  /-- Then, nothing is pending, or the rule says stop. -/
  ends : status = .complete ∧ (st.after conflicts selector n).pending = [] ∨
    status = .incomplete ∧ (st.after conflicts selector n).pending ≠ [] ∧
      (rule.shouldStop (rule.stateAfter stop n)).1 = true

/-- A run goes along the states of the walk. -/
theorem exists_endsAfter_run [LawfulEqOrd α] (st : SearchState α σ) (stop : τ) :
    ∃ n, (st.run conflicts selector rule stop).state = st.after conflicts selector n ∧
      EndsAfter conflicts selector rule st stop n
        (st.run conflicts selector rule stop).status := by
  have hend : EndsWith rule (fun st' stop' => ∃ n, st' = st.after conflicts selector n ∧
      stop' = rule.stateAfter stop n ∧ ∀ k < n, (st.after conflicts selector k).pending ≠ [] ∧
        (rule.shouldStop (rule.stateAfter stop k)).1 = false)
      (st.run conflicts selector rule stop) := by
    refine run_induction conflicts selector rule ?_
      ⟨0, rfl, rfl, fun k hk => absurd hk (Nat.not_lt_zero k)⟩
    rintro _ _ path rest hp hgoes ⟨n, rfl, rfl, hbefore⟩
    refine ⟨n + 1, (next_of_cons conflicts selector hp).symm, rfl, fun k hk => ?_⟩
    rcases Nat.lt_succ_iff_lt_or_eq.mp hk with hk | rfl
    · exact hbefore k hk
    · exact ⟨by rw [hp]; exact List.cons_ne_nil path rest, hgoes⟩
  generalize st.run conflicts selector rule stop = ended at hend ⊢
  cases hend with
  | complete hI hp =>
      obtain ⟨n, rfl, rfl, hbefore⟩ := hI
      exact ⟨n, rfl, hbefore, Or.inl ⟨rfl, hp⟩⟩
  | incomplete hI hp hstops =>
      obtain ⟨n, rfl, rfl, hbefore⟩ := hI
      exact ⟨n, rfl, hbefore, Or.inr ⟨rfl, hp, hstops⟩⟩

variable {conflicts selector rule} {st : SearchState α σ} {stop : τ} {n : Nat}
  {status : SearchStatus}

/-- Only the pending paths decide where a walk ends. -/
theorem EndsAfter.congr {st' : SearchState α σ}
    (h : EndsAfter conflicts selector rule st stop n status)
    (hp : ∀ k, (st'.after conflicts selector k).pending = (st.after conflicts selector k).pending) :
    EndsAfter conflicts selector rule st' stop n status := by
  refine ⟨fun k hk => ?_, ?_⟩
  · rw [hp k]
    exact h.goes k hk
  · rw [hp n]
    exact h.ends

theorem EndsAfter.size_visits [LawfulEqOrd α]
    (h : EndsAfter conflicts selector rule st stop n status) :
    (st.after conflicts selector n).visits.size = st.visits.size + n :=
  size_visits_after conflicts selector st fun k hk => (h.goes k hk).1

/-- A walk with a limit ends at the limit or where the whole walk ends, and it is complete if the
limit is not in the way. -/
theorem EndsAfter.eq_min {limit : ℕ∞} {τ' : Type} {rule' : StopRule τ'} {stop' : τ'} {total : Nat}
    (h : EndsAfter conflicts selector rule st stop n status) (hlimit : rule.StopsAt stop limit)
    (hall : EndsAfter conflicts selector rule' st stop' total .complete) :
    (n : ℕ∞) = min limit total ∧ (status = .complete ↔ total ≤ limit) := by
  have hvisited : (st.after conflicts selector total).pending = [] := by
    rcases hall.ends with ⟨_, hp⟩ | ⟨hstatus, _⟩
    · exact hp
    · cases hstatus
  have hle : n ≤ total := by
    by_contra hlt
    exact (h.goes total (by omega)).1 hvisited
  have hbelow : (n : ℕ∞) ≤ limit := by
    cases n with
    | zero => exact zero_le
    | succ k =>
        have hgoes := (h.goes k (Nat.lt_succ_self k)).2
        have hlt : (k : ℕ∞) < limit := by
          rw [← not_le, ← hlimit k, hgoes]
          exact Bool.false_ne_true
        exact Order.add_one_le_of_lt hlt
  rcases h.ends with ⟨hstatus, hp⟩ | ⟨hstatus, hp, hstops⟩
  · -- Nothing is pending, so this is the end of the whole walk.
    have heq : n = total := by
      by_contra hne
      exact (hall.goes n (by omega)).1 hp
    rw [heq] at hbelow ⊢
    exact ⟨(min_eq_right hbelow).symm, ⟨fun _ => hbelow, fun _ => hstatus⟩⟩
  · -- The rule says stop here, so this is the limit.
    have heq : limit = n := le_antisymm ((hlimit n).mp hstops) hbelow
    have hlt : n < total := by
      refine lt_of_le_of_ne hle fun heq => hp ?_
      rw [heq]
      exact hvisited
    rw [heq, hstatus]
    refine ⟨(min_eq_left (Nat.cast_le.mpr hle)).symm, ⟨fun hcomplete => (by cases hcomplete), ?_⟩⟩
    exact fun hge => absurd (Nat.cast_le.mp hge) (by omega)

end End

/-! ### Selectors whose state does not matter -/

section Selector

variable {conflicts : List (OrdSet α)} {selector : Selector α σ}
  (hfixed : ∀ sets s s', selector.select sets s = ((selector.select sets s').1, s))

include hfixed

theorem visit_selector (st : SearchState α σ) (choices : σ) (path : OrdSet α)
    (rest : List (OrdSet α)) :
    ({ st with selector := choices } : SearchState α σ).visit conflicts selector path rest =
      { st.visit conflicts selector path rest with selector := choices } := by
  have hplace : ∀ sets,
      (selector.select sets choices).1 = (selector.select sets st.selector).1 := by
    intro sets
    rw [hfixed sets choices st.selector]
  have hstate : ∀ sets s, (selector.select sets s).2 = s := by
    intro sets s
    rw [hfixed sets s s]
  unfold visit
  dsimp only
  split
  · rfl
  · split
    · rfl
    · simp only [hplace, hstate]

/-- The walk makes the same visits from whatever state of the selector. -/
theorem after_selector (st : SearchState α σ) (choices : σ) (n : Nat) :
    ({ st with selector := choices } : SearchState α σ).after conflicts selector n =
      { st.after conflicts selector n with selector := choices } := by
  induction n with
  | zero => rfl
  | succ n ih =>
      change next conflicts selector (after conflicts selector { st with selector := choices } n) =
        { next conflicts selector (after conflicts selector st n) with selector := choices }
      rw [ih]
      cases hp : (st.after conflicts selector n).pending with
      | nil => rw [next_of_nil conflicts selector hp, next_of_nil]; exact hp
      | cons path rest =>
          rw [next_of_cons conflicts selector hp, ← visit_selector hfixed, next_of_cons]
          exact hp

end Selector

end SearchState

end CircuitDiagnosis
