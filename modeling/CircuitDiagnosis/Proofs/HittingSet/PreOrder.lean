import CircuitDiagnosis.HittingSet.PreOrder
import CircuitDiagnosis.Proofs.HittingSet.Exactness

/-!
# The stack refines the recursion

The pending paths of the search are what a recursive walk still has to walk when it comes back from
its calls: walking them in turn leads to the same end before and after a visit
(`Walk.walkAll_visit`). This is an invariant of the run, so the run ends as the recursive walk from
the root does (`SearchState.toWalk_run`).

The solutions recorded so far hit every conflict set, hence a path above one of them does, too. So
there is nothing to prune, and it makes no difference whether the recursive walk would.
-/

namespace CircuitDiagnosis

open Std OrdSet

universe u

variable {α : Type u} [Ord α] [TransOrd α] [LawfulEqOrd α] {σ τ : Type}

/-! ### Visits under sound solutions -/

/-- If all recorded solutions hit every conflict set then a path is either recorded or expanded. -/
theorem SearchState.visit_cases_of_sound {conflicts : List (OrdSet α)} (selector : Selector α σ)
    (path : OrdSet α) (rest : List (OrdSet α)) {st : SearchState α σ}
    (hsound : ∀ s ∈ st.solutions, s.Hits conflicts) :
    (path.Hits conflicts ∧
      st.visit conflicts selector path rest =
        { st with
          pending := rest
          solutions := st.solutions.push path
          visits := st.visits.push ⟨path, uncovered conflicts path, .solution⟩ }) ∨
    (¬ path.Hits conflicts ∧ (∀ s ∈ st.solutions, ¬ s ⊆ path) ∧
      ∃ place selected, selector.select (uncovered conflicts path) st.selector =
          (place, (selector.select (uncovered conflicts path) st.selector).2) ∧
        (uncovered conflicts path)[place]? = some selected ∧
        st.visit conflicts selector path rest =
          { pending := path.extensions selected ++ rest
            solutions := st.solutions
            visits := st.visits.push ⟨path, uncovered conflicts path, .expanded place selected⟩
            maxPending := max st.maxPending (path.extensions selected ++ rest).length
            selector := (selector.select (uncovered conflicts path) st.selector).2 }) := by
  rcases visit_cases conflicts selector path rest st with
    hrecord | ⟨hnot, ⟨s, hs, hsub⟩, _⟩ | hexpand
  · exact Or.inl hrecord
  · exact absurd ((hsound s hs).mono hsub) hnot
  · exact Or.inr hexpand

namespace Walk

variable (prunes : Bool) (conflicts : List (OrdSet α)) (selector : Selector α σ) (rule : StopRule τ)

/-! ### The recursion, case by case -/

/-- Walks the trees below several paths in turn. -/
def walkAll (paths : List (OrdSet α)) (w : Walk α σ τ) : Walk α σ τ :=
  paths.foldl (fun w path => walk prunes conflicts selector rule path w) w

theorem walk_of_stopped (path : OrdSet α) {w : Walk α σ τ} (h : w.stopped = true) :
    walk prunes conflicts selector rule path w = w := by
  rw [walk, if_pos h]

theorem walkAll_of_stopped (paths : List (OrdSet α)) {w : Walk α σ τ} (h : w.stopped = true) :
    walkAll prunes conflicts selector rule paths w = w := by
  induction paths with
  | nil => rfl
  | cons path rest ih =>
      unfold walkAll at ih ⊢
      rw [List.foldl_cons, walk_of_stopped _ _ _ _ _ h, ih]

section Going

variable {w : Walk α σ τ} {path : OrdSet α} (hgoing : w.stopped = false)

include hgoing

theorem walk_of_stops (hstop : (rule.shouldStop w.stop).1 = true) :
    walk prunes conflicts selector rule path w =
      { w with stop := (rule.shouldStop w.stop).2, stopped := true } := by
  rw [walk, if_neg (by rw [hgoing]; exact Bool.false_ne_true)]
  exact if_pos hstop

variable (hstop : (rule.shouldStop w.stop).1 = false)

include hstop

/-- A path that hits every conflict set is recorded. -/
theorem walk_of_hits (hits : path.Hits conflicts) :
    walk prunes conflicts selector rule path w =
      { w with
        solutions := w.solutions.push path
        visits := w.visits.push ⟨path, uncovered conflicts path, .solution⟩
        stop := rule.nodeVisited (rule.shouldStop w.stop).2 } := by
  rw [walk, if_neg (by rw [hgoing]; exact Bool.false_ne_true)]
  dsimp only
  rw [if_neg (by rw [hstop]; exact Bool.false_ne_true), dif_pos (uncovered_eq_nil_iff.mpr hits)]

/-- Any other path is expanded, unless a solution within it is in the way, and its children are
walked in turn. -/
theorem walk_of_not_hits (hnot : ¬ path.Hits conflicts) (hnone : ∀ s ∈ w.solutions, ¬ s ⊆ path)
    {place : Nat} {selected : OrdSet α}
    (hplace : (selector.select (uncovered conflicts path) w.selector).1 = place)
    (hget : (uncovered conflicts path)[place]? = some selected) :
    walk prunes conflicts selector rule path w =
      walkAll prunes conflicts selector rule (path.extensions selected)
        { w with
          visits := w.visits.push ⟨path, uncovered conflicts path, .expanded place selected⟩
          selector := (selector.select (uncovered conflicts path) w.selector).2
          stop := rule.nodeVisited (rule.shouldStop w.stop).2 } := by
  have hany : ¬ (prunes && w.solutions.any fun s => s.subset path) = true := by
    rw [Bool.and_eq_true]
    rintro ⟨_, hany⟩
    obtain ⟨s, hs, hsub⟩ := SearchState.any_subset_iff.mp hany
    exact hnone s hs hsub
  subst hplace
  obtain ⟨hlt, rfl⟩ := List.getElem?_eq_some_iff.mp hget
  rw [walk, if_neg (by rw [hgoing]; exact Bool.false_ne_true)]
  dsimp only
  rw [if_neg (by rw [hstop]; exact Bool.false_ne_true),
    dif_neg fun h => hnot (uncovered_eq_nil_iff.mp h), if_neg hany]
  exact List.foldl_attach (f := fun w child => walk prunes conflicts selector rule child w)

end Going

end Walk

/-! ### The invariant of the run -/

/-- A state of the search, seen as a recursive walk that has not been stopped. -/
def SearchState.toWalk (st : SearchState α σ) (stop : τ) : Walk α σ τ :=
  ⟨st.solutions, st.visits, st.selector, stop, false⟩

/-- The end of a search, seen as a recursive walk. -/
def SearchEnd.toWalk (ended : SearchEnd α σ τ) : Walk α σ τ :=
  { ended.state.toWalk ended.stop with stopped := ended.status == .incomplete }

section Run

variable (prunes : Bool) (conflicts : List (OrdSet α)) (selector : Selector α σ) (rule : StopRule τ)

/-- Walking the pending paths in turn leads to the same end before and after a visit. -/
theorem Walk.walkAll_visit {st : SearchState α σ} {stop : τ} {path : OrdSet α}
    (rest : List (OrdSet α)) (hsound : ∀ s ∈ st.solutions, s.Hits conflicts)
    (hstop : (rule.shouldStop stop).1 = false) :
    walkAll prunes conflicts selector rule (st.visit conflicts selector path rest).pending
        ((st.visit conflicts selector path rest).toWalk
          (rule.nodeVisited (rule.shouldStop stop).2)) =
      walkAll prunes conflicts selector rule (path :: rest) (st.toWalk stop) := by
  rcases SearchState.visit_cases_of_sound selector path rest hsound with
    ⟨hits, hv⟩ | ⟨hnot, hnone, place, selected, hselect, hget, hv⟩
  · rw [hv, walkAll, walkAll, List.foldl_cons,
      walk_of_hits prunes conflicts selector rule (w := st.toWalk stop) rfl hstop hits]
    rfl
  · -- The children are walked first, then what was pending before.
    have hplace : (selector.select (uncovered conflicts path) st.selector).1 = place :=
      congrArg Prod.fst hselect
    rw [hv, walkAll, walkAll, List.foldl_cons, List.foldl_append,
      walk_of_not_hits prunes conflicts selector rule (w := st.toWalk stop) rfl hstop hnot hnone
        hplace hget]
    rfl

/-- A run with sound solutions ends as walking its pending paths in turn does. -/
theorem SearchState.toWalk_run {st : SearchState α σ} (stop : τ)
    (hsound : ∀ s ∈ st.solutions, s.Hits conflicts) :
    (st.run conflicts selector rule stop).toWalk =
      Walk.walkAll prunes conflicts selector rule st.pending (st.toWalk stop) := by
  have hend : EndsWith rule (fun st' stop' => (∀ s ∈ st'.solutions, s.Hits conflicts) ∧
      Walk.walkAll prunes conflicts selector rule st'.pending (st'.toWalk stop') =
        Walk.walkAll prunes conflicts selector rule st.pending (st.toWalk stop))
      (st.run conflicts selector rule stop) := by
    refine run_induction conflicts selector rule ?_ ⟨hsound, rfl⟩
    rintro st' stop' path rest hp hgoes ⟨hsound', hwalk⟩
    rw [hp] at hwalk
    exact ⟨sound_visit selector path rest hsound',
      (Walk.walkAll_visit prunes conflicts selector rule rest hsound' hgoes).trans hwalk⟩
  generalize st.run conflicts selector rule stop = ended at hend ⊢
  cases hend with
  | complete hI hp =>
      rw [← hI.2, hp]
      rfl
  | @incomplete st' stop' hI hp hstops =>
      obtain ⟨path, rest, hp⟩ := List.exists_cons_of_ne_nil hp
      rw [← hI.2, hp, Walk.walkAll, List.foldl_cons,
        Walk.walk_of_stops prunes conflicts selector rule (w := st'.toWalk stop') rfl hstops]
      exact (Walk.walkAll_of_stopped prunes conflicts selector rule rest rfl).symm

/-- A run from the root ends as the recursive walk from the root does. -/
theorem SearchState.toWalk_run_initial (choices : σ) (stop : τ) :
    ((initial choices).run conflicts selector rule stop).toWalk =
      Walk.walk prunes conflicts selector rule ∅ (.initial choices stop) :=
  toWalk_run prunes conflicts selector rule stop fun s hs => absurd hs (Array.not_mem_empty s)

end Run

omit [TransOrd α] [LawfulEqOrd α] in
theorem SearchEnd.status_toWalk (ended : SearchEnd α σ τ) : ended.toWalk.status = ended.status := by
  obtain ⟨st, stop, status⟩ := ended
  cases status <;> rfl

/-! ### The result -/

section Result

variable {α : Type} [Ord α]

/-- The selector that also keeps, in order, the lists that it was asked to pick from. -/
def Selector.logging (selector : Selector α σ) : Selector α (σ × List (List (OrdSet α))) where
  select sets state :=
    let choice := selector.select sets state.1
    (choice.1, choice.2, state.2 ++ [sets])
  select_lt sets state hne := selector.select_lt sets state.1 hne

variable [TransOrd α] [LawfulEqOrd α]

/-- **The stack refines the recursion.** If there are conflict sets then a search makes the visits
of the recursive walk from the root in the same order, whether or not the walk prunes: it records
the same solutions, asks the selector to pick from the same lists, leaves selector and stop rule in
the same state, and has the same status and counters. -/
theorem search_refines_walk (prunes : Bool) (conflicts : List (OrdSet α)) (selector : Selector α σ)
    (choices : σ) (rule : StopRule τ) (stop : τ) (hne : conflicts ≠ []) :
    let ended := (SearchState.initial choices).run conflicts selector rule stop
    let walk := Walk.walk prunes conflicts selector rule ∅ (.initial choices stop)
    let result := search conflicts selector choices rule stop
    result.visits = walk.visits.toList ∧
      ended.state.solutions = walk.solutions ∧
      result.hittingSets = deduplicate walk.solutions.toList ∧
      ended.state.selector = walk.selector ∧ ended.stop = walk.stop ∧
      ((SearchState.initial (choices, [])).run conflicts selector.logging rule
          stop).state.selector.2 =
        (Walk.walk prunes conflicts selector.logging rule ∅
          (.initial (choices, []) stop)).selector.2 ∧
      result.status = walk.status ∧
      result.statistics.nodesVisited = walk.visits.size ∧
      result.statistics.numSolutionNodes = walk.solutions.size ∧
      result.statistics.numPrunedNodes = walk.visits.toList.countP Visit.isPruned := by
  intro ended walk result
  have hwalk : ended.toWalk = walk :=
    SearchState.toWalk_run_initial prunes conflicts selector rule choices stop
  have hlogged := SearchState.toWalk_run_initial prunes conflicts selector.logging rule
    (choices, []) stop
  have hresult : result = .ofEnd ended 0 :=
    search_of_ne_nil conflicts selector choices rule stop hne
  have hrecords : ended.state.RecordsVisits :=
    SearchState.recordsVisits_run conflicts selector rule choices stop
  have hsolutions : result.statistics.numSolutionNodes = ended.state.solutions.size := by
    rw [hresult, ← Array.length_toList, hrecords, List.length_map, ← List.countP_eq_length_filter]
    rfl
  rw [← hwalk, ← hlogged, hsolutions, SearchEnd.status_toWalk, hresult]
  exact ⟨rfl, rfl, rfl, rfl, rfl, rfl, rfl, Array.length_toList, rfl, rfl⟩

end Result

/-- A walk over three conflict sets by random choices that is stopped after four paths. -/
theorem search_refines_walk_four_paths :
    let conflicts : List (OrdSet String) :=
      [.ofList ["A", "B"], .ofList ["B", "C"], .ofList ["A", "C"]]
    let walk := Walk.walk false conflicts Heuristic.random.selector (.timed frozenClock) ∅
      (.initial (.ofSeed 7) ⟨.nodes 4, 0⟩)
    conflicts ≠ [] ∧ walk.status = .incomplete ∧
      walk.visits.toList.map Visit.path =
        [∅, .ofList ["B"], .ofList ["A", "B"], .ofList ["B", "C"]] := by
  intro conflicts walk
  have hne : conflicts ≠ [] := List.cons_ne_nil _ _
  obtain ⟨hvisits, _, _, _, _, _, hstatus, _⟩ := search_refines_walk false conflicts
    Heuristic.random.selector (.ofSeed 7) (.timed frozenClock) ⟨.nodes 4, 0⟩ hne
  refine ⟨hne, ?_, ?_⟩
  · rw [← hstatus]
    decide +kernel
  · rw [← hvisits]
    decide +kernel

end CircuitDiagnosis
