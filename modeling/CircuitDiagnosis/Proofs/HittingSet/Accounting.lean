import CircuitDiagnosis.Proofs.HittingSet.Budget
import CircuitDiagnosis.Proofs.HittingSet.PreOrder

/-!
# Accounting for the visited paths

The books of a search balance in every state of its walk (`SearchState.Balanced`). All recorded
solutions hit every conflict set, so a path above one of them is a solution, too, and nothing is
ever pruned. The conflict set on which a path branches shares no element with it, so each of its
elements gives a child. Hence what has been visited and what is pending together are the root and
the elements of all the conflict sets selected so far.

A visit keeps the books (`SearchState.Balanced.visit`), so they balance along the walk
(`SearchState.balanced_after`) and where a search ends, complete or not
(`search_accounts_for_visits`).
-/

namespace CircuitDiagnosis

open Std (TransOrd LawfulEqOrd)
open OrdSet

universe u

variable {α : Type u} [Ord α]

/-! ### What a visit branches on -/

namespace Visit

/-- The conflict set on which a visit branches, if it does. -/
def selected? (v : Visit α) : Option (OrdSet α) :=
  match v.finding with
  | .expanded _ selected => some selected
  | _ => none

/-- The conflict sets on which visits branch, in order. -/
def selections (visits : List (Visit α)) : List (OrdSet α) := visits.filterMap selected?

/-- The paths that a visit makes pending. -/
def children [TransOrd α] (v : Visit α) : List (OrdSet α) :=
  match v.selected? with
  | some selected => v.path.extensions selected
  | none => []

theorem selections_concat (visits : List (Visit α)) (v : Visit α) :
    selections (visits ++ [v]) = selections visits ++ v.selected?.toList := by
  unfold selections
  rw [List.filterMap_append]
  cases h : v.selected? with
  | none => simp [h]
  | some c => simp [h]

end Visit

theorem totalSize_append (sets more : List (OrdSet α)) :
    totalSize (sets ++ more) = totalSize sets + totalSize more := by
  induction sets with
  | nil => simp [totalSize]
  | cons c rest ih => rw [List.cons_append, totalSize, totalSize, ih, Nat.add_assoc]

variable [TransOrd α] [LawfulEqOrd α] {σ τ : Type}

/-- A path has one extension for each element of a conflict set that it does not hit. -/
theorem OrdSet.length_extensions_of_mem_uncovered {conflicts : List (OrdSet α)} {path c : OrdSet α}
    (hc : c ∈ uncovered conflicts path) : (path.extensions c).length = c.size := by
  have hkeep : c.toList.filter (fun a => !path.contains a) = c.toList := by
    refine List.filter_eq_self.mpr fun a ha => ?_
    rw [Bool.not_eq_true', ← Bool.not_eq_true, contains_iff]
    exact fun hpath => (mem_uncovered.mp hc).2 a hpath ha
  unfold extensions
  rw [hkeep, List.length_map]
  rfl

namespace Visit

omit [LawfulEqOrd α] in
theorem children_eq_nil (v : Visit α) (h : v.selected? = none) : v.children = [] := by
  unfold children
  rw [h]

omit [LawfulEqOrd α] in
theorem children_eq_extensions (v : Visit α) {c : OrdSet α} (h : v.selected? = some c) :
    v.children = v.path.extensions c := by
  unfold children
  rw [h]

/-- A visit that branches on a conflict set has a child for each element of it. -/
theorem length_children (v : Visit α) {conflicts : List (OrdSet α)} {c : OrdSet α}
    (hc : c ∈ OrdSet.uncovered conflicts v.path) (h : v.selected? = some c) :
    v.children.length = c.size := by
  rw [v.children_eq_extensions h, length_extensions_of_mem_uncovered hc]

end Visit

namespace SearchState

/-- If all recorded solutions hit every conflict set then a visit records its path, or it branches on
a conflict set that the path does not hit. Its children become pending, before all that was pending
already. -/
theorem exists_visit_of_sound {conflicts : List (OrdSet α)} (selector : Selector α σ)
    (path : OrdSet α) (rest : List (OrdSet α)) {st : SearchState α σ}
    (hsound : ∀ s ∈ st.solutions, s.Hits conflicts) :
    ∃ v : Visit α, v.path = path ∧ v.isPruned = false ∧
      (st.visit conflicts selector path rest).visits = st.visits.push v ∧
      (st.visit conflicts selector path rest).pending = v.children ++ rest ∧
      (st.visit conflicts selector path rest).maxPending ≤
        max st.maxPending (v.children ++ rest).length ∧
      (v.selected? = none ∧
          (st.visit conflicts selector path rest).solutions = st.solutions.push path ∨
        ∃ c ∈ uncovered conflicts path, v.selected? = some c ∧
          (st.visit conflicts selector path rest).solutions = st.solutions) := by
  rcases visit_cases_of_sound selector path rest hsound with
    ⟨_, hv⟩ | ⟨_, _, place, selected, _, hget, hv⟩
  · rw [hv]
    exact ⟨_, rfl, rfl, rfl, rfl, le_max_left _ _, Or.inl ⟨rfl, rfl⟩⟩
  · have hselected := List.mem_of_getElem? hget
    rw [hv]
    exact ⟨_, rfl, rfl, rfl, rfl, le_refl _, Or.inr ⟨selected, hselected, rfl, rfl⟩⟩

/-! ### The books -/

/-- The books of a walk are in order. -/
structure Balanced (conflicts : List (OrdSet α)) (st : SearchState α σ) : Prop where
  /-- A path above a recorded solution hits every conflict set. -/
  covers : ∀ s ∈ st.solutions, ∀ path : OrdSet α, s ⊆ path → path.Hits conflicts
  /-- No visit has pruned. -/
  unpruned : ∀ v ∈ st.visits, v.isPruned = false
  /-- A visit branches on a conflict set that shares no element with its path, and makes as many
  paths pending as the conflict set has elements. -/
  branches : ∀ v ∈ st.visits, ∀ c, v.selected? = some c →
    c ∈ conflicts ∧ (∀ a ∈ v.path, a ∉ c) ∧ v.children.length = c.size
  /-- Each visit has recorded a solution or branched. -/
  visited : st.visits.size = st.solutions.size + (Visit.selections st.visits.toList).length
  /-- The paths visited and pending are the root and one for each element of the conflict sets
  branched on. -/
  conserved : st.visits.size + st.pending.length =
    1 + totalSize (Visit.selections st.visits.toList)

omit [LawfulEqOrd α] in
theorem balanced_initial (conflicts : List (OrdSet α)) (choices : σ) :
    (initial choices : SearchState α σ).Balanced conflicts where
  covers s hs := absurd hs (Array.not_mem_empty s)
  unpruned v hv := absurd hv (Array.not_mem_empty v)
  branches v hv := absurd hv (Array.not_mem_empty v)
  visited := rfl
  conserved := rfl

omit [LawfulEqOrd α] in
/-- What is recorded under books that are in order hits every conflict set. -/
theorem Balanced.sound {conflicts : List (OrdSet α)} {st : SearchState α σ}
    (h : st.Balanced conflicts) : ∀ s ∈ st.solutions, s.Hits conflicts :=
  fun s hs => h.covers s hs s (subset_refl s)

/-- A visit keeps the books in order. -/
theorem Balanced.visit {conflicts : List (OrdSet α)} (selector : Selector α σ) {path : OrdSet α}
    {rest : List (OrdSet α)} {st : SearchState α σ} (hp : st.pending = path :: rest)
    (h : st.Balanced conflicts) : (st.visit conflicts selector path rest).Balanced conflicts := by
  obtain ⟨v, rfl, hpruned, hvisits, hpending, _, hfinding⟩ :=
    exists_visit_of_sound selector path rest h.sound
  have hvisited := h.visited
  have hconserved := h.conserved
  rw [hp, List.length_cons] at hconserved
  refine ⟨fun s hs t hst => (sound_visit selector v.path rest h.sound s hs).mono hst, ?_, ?_, ?_, ?_⟩
  · rw [hvisits]
    intro w hw
    rcases Array.mem_push.mp hw with hw | rfl
    · exact h.unpruned w hw
    · exact hpruned
  · rw [hvisits]
    intro w hw d hd
    rcases Array.mem_push.mp hw with hw | rfl
    · exact h.branches w hw d hd
    · rcases hfinding with ⟨hnone, _⟩ | ⟨c, hc, hsome, _⟩
      · rw [hnone] at hd
        cases hd
      · have hcd : c = d := Option.some.inj (hsome.symm.trans hd)
        subst hcd
        obtain ⟨hmem, hdisjoint⟩ := mem_uncovered.mp hc
        exact ⟨hmem, hdisjoint, w.length_children hc hsome⟩
  · rw [hvisits, Array.size_push, Array.toList_push, Visit.selections_concat, List.length_append]
    rcases hfinding with ⟨hnone, hsolutions⟩ | ⟨c, _, hsome, hsolutions⟩
    · rw [hsolutions, hnone, Array.size_push, Option.toList_none, List.length_nil]
      omega
    · rw [hsolutions, hsome, Option.toList_some, List.length_singleton]
      omega
  · rw [hvisits, hpending, Array.size_push, Array.toList_push, Visit.selections_concat,
      totalSize_append, List.length_append]
    rcases hfinding with ⟨hnone, _⟩ | ⟨c, hc, hsome, _⟩
    · rw [v.children_eq_nil hnone, hnone, Option.toList_none, List.length_nil, totalSize]
      omega
    · rw [v.length_children hc hsome, hsome, Option.toList_some, totalSize, totalSize]
      omega

/-- The books are in order in every state of the walk. -/
theorem balanced_after (conflicts : List (OrdSet α)) (selector : Selector α σ) (choices : σ)
    (n : Nat) : ((initial choices).after conflicts selector n).Balanced conflicts :=
  after_preserves conflicts selector (fun _ _ _ hp h => h.visit selector hp)
    (balanced_initial conflicts choices) n

/-- The next state of the walk has one more visit, whose children are pending before all that was
pending already. -/
theorem exists_visit_after {conflicts : List (OrdSet α)} (selector : Selector α σ) (choices : σ)
    (n : Nat) {path : OrdSet α} {rest : List (OrdSet α)}
    (hp : ((initial choices).after conflicts selector n).pending = path :: rest) :
    ∃ v : Visit α, v.path = path ∧
      ((initial choices).after conflicts selector (n + 1)).visits =
        ((initial choices).after conflicts selector n).visits.push v ∧
      ((initial choices).after conflicts selector (n + 1)).pending = v.children ++ rest := by
  obtain ⟨v, hpath, _, hvisits, hpending, _⟩ :=
    exists_visit_of_sound selector path rest (balanced_after conflicts selector choices n).sound
  refine ⟨v, hpath, ?_⟩
  rw [after, next_of_cons conflicts selector hp]
  exact ⟨hvisits, hpending⟩

omit [TransOrd α] [LawfulEqOrd α] in
theorem RecordsVisits.countP_isSolution {st : SearchState α σ} (h : st.RecordsVisits) :
    st.visits.toList.countP Visit.isSolution = st.solutions.size := by
  rw [← Array.length_toList, h, List.length_map, List.countP_eq_length_filter]

end SearchState

/-! ### The result -/

section Result

variable (conflicts : List (OrdSet α)) (selector : Selector α σ) (choices : σ)
  (rule : StopRule τ) (stop : τ)

/-- If there are conflict sets, a search ends in a state of the walk from the root. -/
theorem exists_ofEnd_search (hne : conflicts ≠ []) :
    ∃ (ended : SearchEnd α σ τ) (n : Nat),
      search conflicts selector choices rule stop = .ofEnd ended 0 ∧
      ended.state = (SearchState.initial choices).after conflicts selector n ∧
      SearchState.EndsAfter conflicts selector rule (.initial choices) stop n ended.status ∧
      ended.state.RecordsVisits ∧ (ended.status = .complete → ended.state.pending = []) := by
  obtain ⟨n, hstate, hends⟩ :=
    SearchState.exists_endsAfter_run conflicts selector rule (.initial choices) stop
  exact ⟨_, n, search_of_ne_nil conflicts selector choices rule stop hne, hstate, hends,
    SearchState.recordsVisits_run conflicts selector rule choices stop,
    SearchState.pending_run_of_complete conflicts selector rule⟩

end Result

omit [LawfulEqOrd α] in
/-- The counters of a search whose books are in order at its end. -/
theorem SearchState.Balanced.counters_ofEnd {conflicts : List (OrdSet α)}
    {ended : SearchEnd α σ τ} (h : ended.state.Balanced conflicts)
    (hrecords : ended.state.RecordsVisits) (milliseconds : ℕ) :
    let result := SearchResult.ofEnd ended milliseconds
    let selected := Visit.selections result.visits
    result.statistics.numPrunedNodes = 0 ∧
      result.statistics.nodesVisited = result.statistics.numSolutionNodes + selected.length ∧
      result.statistics.nodesVisited + result.pending = 1 + totalSize selected := by
  have hvisited := h.visited
  have hconserved := h.conserved
  rw [← hrecords.countP_isSolution, ← Array.length_toList] at hvisited
  rw [← Array.length_toList] at hconserved
  refine ⟨List.countP_eq_zero.mpr fun v hv => ?_, hvisited, hconserved⟩
  rw [h.unpruned v (Array.mem_toList_iff.mp hv)]
  exact Bool.false_ne_true

/-- A search logs that it was stopped exactly if it was, and with how many paths pending. -/
theorem SearchResult.searchStopped_mem_events_iff (r : SearchResult ComponentId)
    (heuristic : Heuristic) {conflicts : List ComponentSet} (hne : conflicts ≠ []) {k : ℕ} :
    Event.searchStopped k ∈ r.events heuristic conflicts ↔
      r.status = .incomplete ∧ k = r.pending := by
  have hvisits : ∀ v : Visit ComponentId, Event.searchStopped k ∉ v.events := by
    intro v
    unfold Visit.events
    split <;> simp
  have hempty : Event.searchStopped k ∉
      if conflicts.any OrdSet.isEmpty then [Event.unhittable] else [] := by
    split <;> simp
  have hnil : conflicts.isEmpty = false := by
    rw [List.isEmpty_eq_false_iff]
    exact hne
  unfold SearchResult.events SearchResult.isComplete
  rw [hnil, if_neg Bool.false_ne_true]
  simp only [List.mem_append, List.mem_flatMap, hempty, hvisits, and_false, exists_false, false_or,
    List.mem_singleton, reduceCtorEq, or_false]
  cases r.status <;> simp

/-- **A search accounts for its paths, and never prunes.** In every state of its walk, whichever
conflict sets are selected, the books are in order: a path above a recorded solution hits every
conflict set, nothing was pruned, and each conflict set that a path branched on shares no element
with it and gave it a child for each of its elements. The next visit makes these children pending,
before all that was pending already.

A search goes along these states and ends in one of them, whenever it is stopped. So it has visited
as many paths as it recorded solutions and selected conflict sets; together with the paths left
pending these are the root and the elements of the conflict sets selected. The number of paths left
is the one logged if the search was stopped, and zero if it was not. -/
theorem search_accounts_for_visits {σ τ : Type} (conflicts : List ComponentSet)
    (selector : Selector ComponentId σ) (choices : σ) (rule : StopRule τ) (stop : τ) :
    let walk := (SearchState.initial choices).after conflicts selector
    let result := search conflicts selector choices rule stop
    let selected := Visit.selections result.visits
    (∀ n, (walk n).Balanced conflicts) ∧
      (∀ n path rest, (walk n).pending = path :: rest → ∃ v : Visit ComponentId, v.path = path ∧
        (walk (n + 1)).visits = (walk n).visits.push v ∧
        (walk (n + 1)).pending = v.children ++ rest) ∧
      (conflicts ≠ [] → ∃ n,
        SearchState.EndsAfter conflicts selector rule (.initial choices) stop n result.status ∧
        result.visits = (walk n).visits.toList ∧ result.pending = (walk n).pending.length) ∧
      result.statistics.numPrunedNodes = 0 ∧
      result.statistics.nodesVisited = result.statistics.numSolutionNodes + selected.length ∧
      (conflicts ≠ [] →
        result.statistics.nodesVisited + result.pending = 1 + totalSize selected) ∧
      (result.status = .complete → result.pending = 0) ∧
      ∀ heuristic k, Event.searchStopped k ∈ result.events heuristic conflicts ↔
        result.status = .incomplete ∧ k = result.pending := by
  intro walk result selected
  have hbalanced : ∀ n, (walk n).Balanced conflicts :=
    SearchState.balanced_after conflicts selector choices
  refine ⟨hbalanced, fun n _ _ hp => SearchState.exists_visit_after selector choices n hp, ?_⟩
  by_cases hnil : conflicts = []
  · -- Without conflict sets nothing is visited and nothing is logged but that.
    subst hnil
    refine ⟨fun h => absurd rfl h, rfl, rfl, fun h => absurd rfl h, fun _ => rfl, fun _ k => ?_⟩
    constructor
    · intro h
      cases List.mem_singleton.mp h
    · rintro ⟨h, _⟩
      cases h
  · obtain ⟨ended, n, hresult, hstate, hends, hrecords, hcomplete⟩ :=
      exists_ofEnd_search conflicts selector choices rule stop hnil
    have hbooks : ended.state.Balanced conflicts := by
      rw [hstate]
      exact hbalanced n
    obtain ⟨hpruned, hvisited, hconserved⟩ := hbooks.counters_ofEnd hrecords 0
    have hlogged := fun heuristic k => result.searchStopped_mem_events_iff heuristic hnil (k := k)
    change result = _ at hresult
    simp only [selected, hresult] at hlogged ⊢
    refine ⟨fun _ => ⟨n, hends, ?_, ?_⟩, hpruned, hvisited, fun _ => hconserved, fun h => ?_,
      hlogged⟩
    · exact congrArg (fun st => st.visits.toList) hstate
    · exact congrArg (fun st => st.pending.length) hstate
    · exact congrArg List.length (hcomplete h)

/-- A walk over three conflict sets that is stopped after three paths: two conflict sets of two
components were selected, so two of the five paths met so far are left. -/
theorem search_accounts_for_visits_three_paths :
    let conflicts : List ComponentSet :=
      [.ofList ["A", "B"], .ofList ["B", "C"], .ofList ["A", "C"]]
    let result := search conflicts Heuristic.mostFrequent.selector (.ofSeed 7)
      (.timed frozenClock) ⟨.nodes 3, 0⟩
    conflicts ≠ [] ∧ result.status = .incomplete ∧ result.statistics.nodesVisited = 3 ∧
      (∀ heuristic, Event.searchStopped 2 ∈ result.events heuristic conflicts) ∧
      totalSize (Visit.selections result.visits) = 4 := by
  intro conflicts result
  have hne : conflicts ≠ [] := List.cons_ne_nil _ _
  obtain ⟨_, _, _, _, _, hconserved, _, hlogged⟩ := search_accounts_for_visits conflicts
    Heuristic.mostFrequent.selector (.ofSeed 7) (.timed frozenClock) ⟨.nodes 3, 0⟩
  have hend : (result.status, result.statistics.nodesVisited, result.pending) =
      (.incomplete, 3, 2) := by
    decide +kernel
  obtain ⟨hstatus, hrest⟩ := Prod.mk.inj hend
  obtain ⟨hvisited, hpending⟩ := Prod.mk.inj hrest
  refine ⟨hne, hstatus, hvisited, fun heuristic => ?_, ?_⟩
  · exact (hlogged heuristic 2).mpr ⟨hstatus, hpending.symm⟩
  · have htotal : result.statistics.nodesVisited + result.pending = _ := hconserved hne
    rw [hvisited, hpending] at htotal
    exact (Nat.add_left_cancel (k := 4) (n := 1) htotal.symm)

end CircuitDiagnosis
