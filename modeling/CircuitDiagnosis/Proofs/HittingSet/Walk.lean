import CircuitDiagnosis.HittingSet.Search

/-!
# Steps and runs of the walk

`SearchState.visit_cases` says all that a visit can do: record a solution, prune, or expand.
`SearchState.run_induction` carries an invariant of the visits through a whole run and says how the
run ended: with nothing pending if it is complete, else by an answer of the stop rule. Complete or
not, the solutions are the visited paths that hit every conflict set
(`SearchState.mem_solutions_run_iff`).

A rule that never says stop, however many nodes were visited, lets every run come to its end
(`SearchState.status_run_of_neverStops`).
-/

namespace CircuitDiagnosis

open Std

universe u

/-! ### Stop rules -/

namespace StopRule

variable {τ : Type} (rule : StopRule τ)

/-- The state of the rule after it was asked about a number of nodes that were then visited. -/
def stateAfter (stop : τ) : Nat → τ
  | 0 => stop
  | n + 1 => rule.nodeVisited (rule.shouldStop (stateAfter stop n)).2

/-- However many nodes are visited, the rule does not say stop. -/
def NeverStops (stop : τ) : Prop := ∀ n, (rule.shouldStop (rule.stateAfter stop n)).1 = false

theorem neverStops_never : never.NeverStops () := fun _ => rfl

/-- The conditions without any budget never say stop, whatever the clock shows. -/
theorem neverStops_timed (clock : Nat → Nat) (readings : Nat) {condition : StopCondition}
    (h : condition = .indefinite ∨ condition = .absent) :
    (timed clock).NeverStops ⟨condition, readings⟩ := by
  have hstate : ∀ n, ((timed clock).stateAfter ⟨condition, readings⟩ n).condition = condition := by
    intro n
    induction n with
    | zero => rfl
    | succ n ih =>
        change (((timed clock).stateAfter ⟨condition, readings⟩ n).condition).nodeVisited = _
        rw [ih]
        rcases h with rfl | rfl <;> rfl
  intro n
  change StopCondition.shouldStop _ ((timed clock).stateAfter ⟨condition, readings⟩ n).condition = _
  rw [hstate n]
  rcases h with rfl | rfl <;> rfl

end StopRule

namespace SearchState

variable {α : Type u} [Ord α] [TransOrd α] {σ τ : Type}

/-! ### One visit -/

theorem any_subset_iff [LawfulEqOrd α] {solutions : Array (OrdSet α)} {path : OrdSet α} :
    (solutions.any fun s => s.subset path) = true ↔ ∃ s ∈ solutions, s ⊆ path := by
  simp only [Array.any_eq_true', OrdSet.subset_iff]

/-- A path is recorded if it hits every conflict set, else pruned if a recorded solution lies within
it, else expanded by a conflict set that it does not hit. -/
theorem visit_cases [LawfulEqOrd α] (conflicts : List (OrdSet α)) (selector : Selector α σ)
    (path : OrdSet α) (rest : List (OrdSet α)) (st : SearchState α σ) :
    (path.Hits conflicts ∧
      st.visit conflicts selector path rest =
        { st with
          pending := rest
          solutions := st.solutions.push path
          visits := st.visits.push ⟨path, OrdSet.uncovered conflicts path, .solution⟩ }) ∨
    (¬ path.Hits conflicts ∧ (∃ s ∈ st.solutions, s ⊆ path) ∧
      st.visit conflicts selector path rest =
        { st with
          pending := rest
          visits := st.visits.push ⟨path, OrdSet.uncovered conflicts path, .pruned⟩ }) ∨
    (¬ path.Hits conflicts ∧ (∀ s ∈ st.solutions, ¬ s ⊆ path) ∧
      ∃ place selected, selector.select (OrdSet.uncovered conflicts path) st.selector =
          (place, (selector.select (OrdSet.uncovered conflicts path) st.selector).2) ∧
        (OrdSet.uncovered conflicts path)[place]? = some selected ∧
        st.visit conflicts selector path rest =
          { pending := path.extensions selected ++ rest
            solutions := st.solutions
            visits := st.visits.push
              ⟨path, OrdSet.uncovered conflicts path, .expanded place selected⟩
            maxPending := max st.maxPending (path.extensions selected ++ rest).length
            selector := (selector.select (OrdSet.uncovered conflicts path) st.selector).2 }) := by
  unfold visit
  by_cases hits : OrdSet.uncovered conflicts path = []
  · left
    rw [dif_pos hits]
    exact ⟨OrdSet.uncovered_eq_nil_iff.mp hits, rfl⟩
  · right
    rw [dif_neg hits]
    have hnot : ¬ path.Hits conflicts := fun h => hits (OrdSet.uncovered_eq_nil_iff.mpr h)
    by_cases hpruned : (st.solutions.any fun s => s.subset path) = true
    · left
      rw [if_pos hpruned]
      exact ⟨hnot, any_subset_iff.mp hpruned, rfl⟩
    · right
      rw [if_neg hpruned]
      refine ⟨hnot, fun s hs hsub => hpruned ?_, _, _, rfl, ?_, rfl⟩
      · exact any_subset_iff.mpr ⟨s, hs, hsub⟩
      · exact List.getElem?_eq_getElem _

/-- A visit is added behind those made before. It finds a solution exactly if its path hits every
conflict set, and then the path is added to the solutions. -/
theorem exists_visits_visit [LawfulEqOrd α] (conflicts : List (OrdSet α)) (selector : Selector α σ)
    (path : OrdSet α) (rest : List (OrdSet α)) (st : SearchState α σ) :
    ∃ v : Visit α, v.path = path ∧
      (st.visit conflicts selector path rest).visits = st.visits.push v ∧
      (v.isSolution = true ∧ path.Hits conflicts ∧
          (st.visit conflicts selector path rest).solutions = st.solutions.push path ∨
        v.isSolution = false ∧ ¬ path.Hits conflicts ∧
          (st.visit conflicts selector path rest).solutions = st.solutions) := by
  rcases visit_cases conflicts selector path rest st with
    ⟨hits, hv⟩ | ⟨hnot, _, hv⟩ | ⟨hnot, _, _, _, _, _, hv⟩
  · rw [hv]
    exact ⟨_, rfl, rfl, Or.inl ⟨rfl, hits, rfl⟩⟩
  · rw [hv]
    exact ⟨_, rfl, rfl, Or.inr ⟨rfl, hnot, rfl⟩⟩
  · rw [hv]
    exact ⟨_, rfl, rfl, Or.inr ⟨rfl, hnot, rfl⟩⟩

/-- The solutions are the paths of the visits that recorded one, in order. -/
def RecordsVisits (st : SearchState α σ) : Prop :=
  st.solutions.toList = (st.visits.toList.filter Visit.isSolution).map Visit.path

omit [TransOrd α] in
theorem recordsVisits_initial (choices : σ) : (initial choices : SearchState α σ).RecordsVisits :=
  rfl

theorem RecordsVisits.visit [LawfulEqOrd α] {conflicts : List (OrdSet α)}
    (selector : Selector α σ) (path : OrdSet α) (rest : List (OrdSet α)) {st : SearchState α σ}
    (h : st.RecordsVisits) : (st.visit conflicts selector path rest).RecordsVisits := by
  unfold RecordsVisits at h ⊢
  obtain ⟨v, rfl, hvisits, ⟨hsolution, _, hs⟩ | ⟨hsolution, _, hs⟩⟩ :=
    exists_visits_visit conflicts selector path rest st
  · rw [hs, hvisits, Array.toList_push, Array.toList_push, List.filter_append, List.map_append, h,
      List.filter_cons_of_pos hsolution]
    rfl
  · rw [hs, hvisits, Array.toList_push, List.filter_append, List.map_append, h,
      List.filter_cons_of_neg (by rw [hsolution]; exact Bool.false_ne_true)]
    exact (List.append_nil _).symm

/-- A visit finds a solution exactly if its path hits every conflict set. -/
def FindsHits (conflicts : List (OrdSet α)) (st : SearchState α σ) : Prop :=
  ∀ v ∈ st.visits, v.isSolution = true ↔ v.path.Hits conflicts

theorem FindsHits.visit [LawfulEqOrd α] {conflicts : List (OrdSet α)} (selector : Selector α σ)
    (path : OrdSet α) (rest : List (OrdSet α)) {st : SearchState α σ}
    (h : st.FindsHits conflicts) : (st.visit conflicts selector path rest).FindsHits conflicts := by
  intro w hw
  obtain ⟨v, rfl, hvisits, hfinding⟩ := exists_visits_visit conflicts selector path rest st
  rw [hvisits] at hw
  rcases Array.mem_push.mp hw with hw | rfl
  · exact h w hw
  · rcases hfinding with ⟨hsolution, hits, _⟩ | ⟨hsolution, hnot, _⟩
    · exact ⟨fun _ => hits, fun _ => hsolution⟩
    · rw [hsolution]
      exact ⟨fun hs => absurd hs Bool.false_ne_true, fun hits => absurd hits hnot⟩

/-! ### Whole runs -/

/-- A run ended with an invariant of the walk and the stop rule: either nothing was pending, or the
rule said stop while some path still was. -/
inductive EndsWith (rule : StopRule τ) (I : SearchState α σ → τ → Prop) : SearchEnd α σ τ → Prop
  | complete {st : SearchState α σ} {stop : τ} (invariant : I st stop) (visited : st.pending = []) :
      EndsWith rule I ⟨st, stop, .complete⟩
  | incomplete {st : SearchState α σ} {stop : τ} (invariant : I st stop) (left : st.pending ≠ [])
      (stops : (rule.shouldStop stop).1 = true) :
      EndsWith rule I ⟨st, (rule.shouldStop stop).2, .incomplete⟩

omit [TransOrd α] in
theorem EndsWith.invariant {rule : StopRule τ} {I : SearchState α σ → τ → Prop}
    {ended : SearchEnd α σ τ} (h : EndsWith rule I ended) : ∃ stop, I ended.state stop := by
  cases h with
  | complete hI => exact ⟨_, hI⟩
  | incomplete hI => exact ⟨_, hI⟩

omit [TransOrd α] in
theorem EndsWith.pending_eq_nil {rule : StopRule τ} {I : SearchState α σ → τ → Prop}
    {ended : SearchEnd α σ τ} (h : EndsWith rule I ended) (hc : ended.status = .complete) :
    ended.state.pending = [] := by
  cases h with
  | complete _ hp => exact hp
  | incomplete => cases hc

section Run

variable (conflicts : List (OrdSet α)) (selector : Selector α σ) (rule : StopRule τ)

theorem advance_nil {st : SearchState α σ} (stop : τ) (h : st.pending = []) :
    st.advance conflicts selector rule stop = .inr ⟨st, stop, .complete⟩ := by
  unfold advance
  rw [h]

theorem advance_stop {st : SearchState α σ} {stop : τ} {path : OrdSet α} {rest : List (OrdSet α)}
    (h : st.pending = path :: rest) (hstop : (rule.shouldStop stop).1 = true) :
    st.advance conflicts selector rule stop =
      .inr ⟨st, (rule.shouldStop stop).2, .incomplete⟩ := by
  unfold advance
  rw [h]
  exact if_pos hstop

theorem advance_visit {st : SearchState α σ} {stop : τ} {path : OrdSet α} {rest : List (OrdSet α)}
    (h : st.pending = path :: rest) (hstop : (rule.shouldStop stop).1 = false) :
    st.advance conflicts selector rule stop =
      .inl (st.visit conflicts selector path rest,
        rule.nodeVisited (rule.shouldStop stop).2) := by
  unfold advance
  rw [h]
  exact if_neg (by rw [hstop]; exact Bool.false_ne_true)

variable [LawfulEqOrd α]

theorem run_of_inr {st : SearchState α σ} {stop : τ} {ended : SearchEnd α σ τ}
    (h : st.advance conflicts selector rule stop = .inr ended) :
    st.run conflicts selector rule stop = ended := by
  rw [run]
  split
  · next he => rw [h] at he; cases he
  · next he => rw [h] at he; cases he; rfl

theorem run_of_inl {st next : SearchState α σ} {stop later : τ}
    (h : st.advance conflicts selector rule stop = .inl (next, later)) :
    st.run conflicts selector rule stop = next.run conflicts selector rule later := by
  rw [run]
  split
  · next he => rw [h] at he; cases he; rfl
  · next he => rw [h] at he; cases he

/-- An invariant of the visits, of the walk together with the state of the stop rule, holds at the
end of every run. -/
theorem run_induction {I : SearchState α σ → τ → Prop}
    (hvisit : ∀ st stop path rest, st.pending = path :: rest → (rule.shouldStop stop).1 = false →
      I st stop →
        I (st.visit conflicts selector path rest) (rule.nodeVisited (rule.shouldStop stop).2))
    {st : SearchState α σ} {stop : τ} (h : I st stop) :
    EndsWith rule I (st.run conflicts selector rule stop) := by
  -- Every visit leaves less to be visited, so the induction is on the weight of the stack.
  induction hw : stackWeight conflicts st.pending using Nat.strongRecOn generalizing st stop with
  | _ w ih =>
      cases hp : st.pending with
      | nil =>
          rw [run_of_inr _ _ _ (advance_nil conflicts selector rule stop hp)]
          exact .complete h hp
      | cons path rest =>
          cases hs : (rule.shouldStop stop).1 with
          | true =>
              rw [run_of_inr _ _ _ (advance_stop conflicts selector rule hp hs)]
              exact .incomplete h (by rw [hp]; exact List.cons_ne_nil path rest) hs
          | false =>
              have hadv := advance_visit conflicts selector rule hp hs
              rw [run_of_inl _ _ _ hadv]
              have hlt := stackWeight_advance_lt hadv
              rw [hw] at hlt
              exact ih _ hlt (hvisit st stop path rest hp hs h) rfl

/-- An invariant of the visits holds of the state in which a run ends. -/
theorem run_preserves {I : SearchState α σ → Prop}
    (hvisit : ∀ st path rest, st.pending = path :: rest → I st →
      I (st.visit conflicts selector path rest))
    {st : SearchState α σ} (stop : τ) (h : I st) :
    I (st.run conflicts selector rule stop).state := by
  have hend : EndsWith rule (fun st _ => I st) (st.run conflicts selector rule stop) :=
    run_induction conflicts selector rule
      (fun st _ path rest hp _ hst => hvisit st path rest hp hst) h
  obtain ⟨_, hI⟩ := hend.invariant
  exact hI

theorem recordsVisits_run (choices : σ) (stop : τ) :
    ((initial choices).run conflicts selector rule stop).state.RecordsVisits :=
  run_preserves conflicts selector rule (fun _ path rest _ h => h.visit selector path rest) stop
    (recordsVisits_initial choices)

/-- At the end of a run from the root the solutions are the visited paths that hit every conflict
set. -/
theorem mem_solutions_run_iff (choices : σ) (stop : τ) {s : OrdSet α} :
    s ∈ ((initial choices).run conflicts selector rule stop).state.solutions ↔
      s.Hits conflicts ∧ ∃ v ∈ ((initial choices).run conflicts selector rule stop).state.visits,
        v.path = s := by
  have hfinds : ((initial choices).run conflicts selector rule stop).state.FindsHits conflicts :=
    run_preserves conflicts selector rule (fun _ path rest _ h => h.visit selector path rest) stop
      fun v hv => absurd hv (Array.not_mem_empty v)
  have hrecords := recordsVisits_run conflicts selector rule choices stop
  rw [← Array.mem_toList_iff, hrecords]
  simp only [List.mem_map, List.mem_filter, Array.mem_toList_iff]
  constructor
  · rintro ⟨v, ⟨hv, hsolution⟩, rfl⟩
    exact ⟨(hfinds v hv).mp hsolution, v, hv, rfl⟩
  · rintro ⟨hits, v, hv, rfl⟩
    exact ⟨v, ⟨hv, (hfinds v hv).mpr hits⟩, rfl⟩

theorem pending_run_of_complete {st : SearchState α σ} {stop : τ}
    (h : (st.run conflicts selector rule stop).status = .complete) :
    (st.run conflicts selector rule stop).state.pending = [] := by
  have hend : EndsWith rule (fun _ _ => True) (st.run conflicts selector rule stop) :=
    run_induction conflicts selector rule (fun _ _ _ _ _ _ _ => trivial) trivial
  exact hend.pending_eq_nil h

/-- A rule that never says stop lets the walk visit every path. -/
theorem status_run_of_neverStops (st : SearchState α σ) {stop : τ} (h : rule.NeverStops stop) :
    (st.run conflicts selector rule stop).status = .complete := by
  have hnext : ∀ (next : SearchState α σ) later path rest, next.pending = path :: rest →
      (rule.shouldStop later).1 = false → (∃ n, later = rule.stateAfter stop n) →
        ∃ n, rule.nodeVisited (rule.shouldStop later).2 = rule.stateAfter stop n := by
    rintro _ later path rest _ _ ⟨n, rfl⟩
    exact ⟨n + 1, rfl⟩
  have hend : EndsWith rule (fun _ later => ∃ n, later = rule.stateAfter stop n)
      (st.run conflicts selector rule stop) :=
    run_induction conflicts selector rule hnext ⟨0, rfl⟩
  generalize st.run conflicts selector rule stop = ended at hend ⊢
  cases hend with
  | complete => rfl
  | incomplete hn _ hstops =>
      obtain ⟨n, rfl⟩ := hn
      rw [h n] at hstops
      exact absurd hstops Bool.false_ne_true

end Run

end SearchState

end CircuitDiagnosis
