import CircuitDiagnosis.Proofs.HittingSet.Accounting
import Mathlib.Algebra.Order.BigOperators.Group.List
import Mathlib.Algebra.Ring.GeomSum

/-!
# The size of the search tree

Each element of a path pays for a conflict set: a child hits all that its parent hits and the
conflict set on which the parent branches (`Visit.hits_of_mem_children`). So over `m` conflict sets
of at most `b` elements the tree has height `m` and at most `b` children below each path.

`SearchState.Bounded` is what a visit keeps of this. The trees below the pending paths together with
the paths visited already are no more than one tree of height `m`, so the walk ends after at most
`b ^ 0 + ⋯ + b ^ m` visits. The pending paths are the siblings left behind on the way down, at most
`b - 1` of them for each element of a path (`SearchState.Stacked`), so there are never more than
`m * (b - 1) + 1` of them. `search_bounded_by_tree` says so of every search.
-/

namespace CircuitDiagnosis

open Std (TransOrd LawfulEqOrd)
open OrdSet

universe u

/-! ### Trees -/

/-- The number of nodes of a tree of some height in which every inner node has `b` children. -/
def treeSize (b height : ℕ) : ℕ := ∑ i ∈ Finset.range (height + 1), b ^ i

theorem treeSize_succ (b height : ℕ) : treeSize b (height + 1) = b * treeSize b height + 1 :=
  geom_sum_succ

theorem treeSize_mono (b : ℕ) : Monotone (treeSize b) :=
  monotone_nat_of_le_succ fun height => by
    unfold treeSize
    rw [Finset.sum_range_succ _ (height + 1)]
    exact Nat.le_add_right _ _

theorem treeSize_pos (b height : ℕ) : 0 < treeSize b height :=
  Nat.lt_of_lt_of_le (Nat.lt_of_lt_of_eq Nat.zero_lt_one (by simp [treeSize]))
    (treeSize_mono b (Nat.zero_le height))

variable {α : Type u} [Ord α] [TransOrd α] [LawfulEqOrd α] {σ τ : Type}

/-! ### Children -/

theorem OrdSet.size_insert {s : OrdSet α} {a : α} (h : a ∉ s) : (s.insert a).size = s.size + 1 := by
  have hperm : (s.insert a).toList.Perm (a :: s.toList) := by
    refine (List.perm_ext_iff_of_nodup (nodup_toList _) ?_).mpr fun x => ?_
    · exact List.nodup_cons.mpr ⟨h, nodup_toList s⟩
    · exact mem_insert.trans List.mem_cons.symm
  exact hperm.length_eq

namespace Visit

theorem mem_children {v : Visit α} {child : OrdSet α} (h : child ∈ v.children) :
    ∃ c, v.selected? = some c ∧ ∃ a, a ∈ c ∧ a ∉ v.path ∧ v.path.insert a = child := by
  cases hv : v.selected? with
  | none =>
      rw [v.children_eq_nil hv] at h
      cases h
  | some c =>
      rw [v.children_eq_extensions hv] at h
      exact ⟨c, rfl, mem_extensions.mp h⟩

/-- A child is above its parent and hits the conflict set on which the parent branches. -/
theorem hits_of_mem_children {v : Visit α} {child : OrdSet α} (h : child ∈ v.children) :
    v.path ⊆ child ∧ ∃ c, v.selected? = some c ∧ ∃ a, a ∈ child ∧ a ∈ c := by
  obtain ⟨c, hc, a, ha, _, rfl⟩ := mem_children h
  refine ⟨fun b hb => mem_insert.mpr (Or.inr hb), c, hc, a, ?_, ha⟩
  exact mem_insert.mpr (Or.inl rfl)

variable {conflicts : List (OrdSet α)} {v : Visit α}
  (hselected : ∀ c, v.selected? = some c → c ∈ OrdSet.uncovered conflicts v.path)

include hselected

/-- A child has one element more than its parent and leaves fewer conflict sets uncovered. -/
theorem size_of_mem_children {child : OrdSet α} (h : child ∈ v.children) :
    child.size = v.path.size + 1 ∧
      (OrdSet.uncovered conflicts child).length < (OrdSet.uncovered conflicts v.path).length := by
  obtain ⟨c, hc, a, ha, hnot, rfl⟩ := mem_children h
  exact ⟨size_insert hnot, length_uncovered_insert_lt (hselected c hc) ha⟩

theorem length_children_le {b : ℕ} (hb : ∀ c ∈ conflicts, c.size ≤ b) : v.children.length ≤ b := by
  cases hv : v.selected? with
  | none =>
      rw [v.children_eq_nil hv]
      exact Nat.zero_le b
  | some c =>
      rw [v.length_children (hselected c hv) hv]
      exact hb c (mem_uncovered.mp (hselected c hv)).1

end Visit

namespace SearchState

/-- The number of nodes of the trees below some paths, as high as conflict sets are uncovered. -/
def forestSize (conflicts : List (OrdSet α)) (b : ℕ) (paths : List (OrdSet α)) : ℕ :=
  (paths.map fun path => treeSize b (uncovered conflicts path).length).sum

omit [TransOrd α] [LawfulEqOrd α] in
theorem forestSize_append (conflicts : List (OrdSet α)) (b : ℕ) (paths more : List (OrdSet α)) :
    forestSize conflicts b (paths ++ more) =
      forestSize conflicts b paths + forestSize conflicts b more := by
  unfold forestSize
  rw [List.map_append, List.sum_append]

/-- The trees below the children are a smaller forest than the tree below the path. -/
theorem forestSize_children_lt {conflicts : List (OrdSet α)} {b : ℕ} {v : Visit α}
    (hb : ∀ c ∈ conflicts, c.size ≤ b)
    (hselected : ∀ c, v.selected? = some c → c ∈ uncovered conflicts v.path) :
    forestSize conflicts b v.children < treeSize b (uncovered conflicts v.path).length := by
  cases hk : (uncovered conflicts v.path).length with
  | zero =>
      -- Nothing is uncovered, so there is nothing to branch on.
      have hnil : v.children = [] := by
        refine List.eq_nil_iff_forall_not_mem.mpr fun child hchild => ?_
        have hlt := (Visit.size_of_mem_children hselected hchild).2
        omega
      rw [hnil]
      exact treeSize_pos b 0
  | succ k =>
      have hle : ∀ n ∈ v.children.map (fun path => treeSize b (uncovered conflicts path).length),
          n ≤ treeSize b k := by
        intro n hn
        obtain ⟨child, hchild, rfl⟩ := List.mem_map.mp hn
        have hlt := (Visit.size_of_mem_children hselected hchild).2
        exact treeSize_mono b (by omega)
      have hsum := List.sum_le_card_nsmul _ _ hle
      rw [List.length_map, smul_eq_mul] at hsum
      have hmul := Nat.mul_le_mul_right (treeSize b k) (Visit.length_children_le hselected hb)
      rw [treeSize_succ]
      exact Nat.lt_succ_of_le (hsum.trans hmul)

/-! ### The stack -/

/-- Behind each path there are at most `b - 1` paths for each of its elements. -/
def Stacked (b : ℕ) : List (OrdSet α) → Prop
  | [] => True
  | path :: rest => rest.length ≤ path.size * (b - 1) ∧ Stacked b rest

omit [TransOrd α] [LawfulEqOrd α] in
/-- Children may be put before what is behind their parent. -/
theorem Stacked.append {b n : ℕ} {children rest : List (OrdSet α)}
    (hsize : ∀ child ∈ children, child.size = n + 1) (hlength : children.length ≤ b)
    (hbehind : rest.length ≤ n * (b - 1)) (h : Stacked b rest) : Stacked b (children ++ rest) := by
  induction children with
  | nil => exact h
  | cons child siblings ih =>
      rw [List.length_cons] at hlength
      rw [List.cons_append, Stacked]
      refine ⟨?_, ih (fun t ht => hsize t (List.mem_cons_of_mem _ ht)) (by omega)⟩
      rw [hsize child List.mem_cons_self, Nat.succ_mul, List.length_append]
      omega

omit [TransOrd α] [LawfulEqOrd α] in
theorem Stacked.length_le {b m : ℕ} {paths : List (OrdSet α)} (h : Stacked b paths)
    (hdeep : ∀ path ∈ paths, path.size ≤ m) : paths.length ≤ m * (b - 1) + 1 := by
  cases paths with
  | nil => exact Nat.zero_le _
  | cons path rest =>
      have hmul := Nat.mul_le_mul_right (b - 1) (hdeep path List.mem_cons_self)
      rw [List.length_cons]
      exact Nat.succ_le_succ (h.1.trans hmul)

/-! ### The invariant -/

/-- What has been visited and what is pending fit into one tree. -/
structure Bounded (conflicts : List (OrdSet α)) (b : ℕ) (st : SearchState α σ) : Prop where
  /-- Each element of a pending path pays for a conflict set that the path hits. -/
  deep : ∀ path ∈ st.pending,
    path.size + (uncovered conflicts path).length ≤ conflicts.length
  visited : ∀ v ∈ st.visits, v.path.size ≤ conflicts.length
  /-- The paths visited and the trees still to be visited are no more than one whole tree. -/
  nodes : st.visits.size + forestSize conflicts b st.pending ≤ treeSize b conflicts.length
  stacked : Stacked b st.pending
  maxPending : st.maxPending ≤ conflicts.length * (b - 1) + 1

omit [TransOrd α] [LawfulEqOrd α] in
theorem bounded_initial (conflicts : List (OrdSet α)) (b : ℕ) (choices : σ) :
    (initial choices).Bounded conflicts b where
  deep path hpath := by
    rw [List.mem_singleton.mp hpath]
    exact (Nat.zero_add _).le.trans (List.length_filter_le _ _)
  visited v hv := absurd hv (Array.not_mem_empty v)
  nodes := by
    have hle : (uncovered conflicts ∅).length ≤ conflicts.length := List.length_filter_le _ _
    exact (Nat.zero_add _).le.trans (treeSize_mono b hle)
  stacked := ⟨Nat.zero_le _, trivial⟩
  maxPending := Nat.zero_le _

/-- A visit stays within the bounds. -/
theorem Bounded.visit {conflicts : List (OrdSet α)} {b : ℕ} (hb : ∀ c ∈ conflicts, c.size ≤ b)
    (selector : Selector α σ) {path : OrdSet α} {rest : List (OrdSet α)} {st : SearchState α σ}
    (hp : st.pending = path :: rest) (hsound : ∀ s ∈ st.solutions, s.Hits conflicts)
    (h : st.Bounded conflicts b) : (st.visit conflicts selector path rest).Bounded conflicts b := by
  obtain ⟨v, rfl, _, hvisits, hpending, hmax, hfinding⟩ :=
    exists_visit_of_sound selector path rest hsound
  have hselected : ∀ c, v.selected? = some c → c ∈ uncovered conflicts v.path := by
    intro c hc
    rcases hfinding with ⟨hnone, _⟩ | ⟨d, hd, hsome, _⟩
    · rw [hnone] at hc
      cases hc
    · rw [hsome] at hc
      cases hc
      exact hd
  obtain ⟨hdeep, hvisited, hnodes, hstacked, hmaxPending⟩ := h
  rw [hp] at hdeep hnodes hstacked
  have hpath := hdeep v.path List.mem_cons_self
  have hchildren : ∀ t ∈ v.children ++ rest,
      t.size + (uncovered conflicts t).length ≤ conflicts.length := by
    intro t ht
    rcases List.mem_append.mp ht with ht | ht
    · obtain ⟨hsize, hlt⟩ := Visit.size_of_mem_children hselected ht
      omega
    · exact hdeep t (List.mem_cons_of_mem _ ht)
  have hstack : Stacked b (v.children ++ rest) :=
    Stacked.append (fun t ht => (Visit.size_of_mem_children hselected ht).1)
      (Visit.length_children_le hselected hb) hstacked.1 hstacked.2
  have hlength := hstack.length_le fun t ht => (Nat.le_add_right _ _).trans (hchildren t ht)
  refine ⟨?_, ?_, ?_, ?_, hmax.trans (max_le hmaxPending hlength)⟩
  · rw [hpending]
    exact hchildren
  · rw [hvisits]
    intro w hw
    rcases Array.mem_push.mp hw with hw | rfl
    · exact hvisited w hw
    · exact (Nat.le_add_right _ _).trans hpath
  · have hlt := forestSize_children_lt hb hselected
    have hcons : forestSize conflicts b (v.path :: rest) =
        treeSize b (uncovered conflicts v.path).length + forestSize conflicts b rest := rfl
    rw [hvisits, hpending, Array.size_push, forestSize_append]
    omega
  · rw [hpending]
    exact hstack

theorem bounded_after {conflicts : List (OrdSet α)} {b : ℕ} (hb : ∀ c ∈ conflicts, c.size ≤ b)
    (selector : Selector α σ) (choices : σ) (n : ℕ) :
    ((initial choices).after conflicts selector n).Bounded conflicts b := by
  have hboth : ((initial choices).after conflicts selector n).Balanced conflicts ∧
      ((initial choices).after conflicts selector n).Bounded conflicts b :=
    after_preserves conflicts selector
      (I := fun st => st.Balanced conflicts ∧ st.Bounded conflicts b)
      (fun _ _ _ hp h => ⟨h.1.visit selector hp, h.2.visit hb selector hp h.1.sound⟩)
      ⟨balanced_initial conflicts choices, bounded_initial conflicts b choices⟩ n
  exact hboth.2

end SearchState

/-! ### The result -/

/-- **A search ends within the bounds of a tree.** Let there be `m` conflict sets of at most `b`
elements. Whatever is selected, and whenever the search is stopped, it ends after at most
`b ^ 0 + ⋯ + b ^ m` visits. No visited path has more than `m` elements, and at no time more than
`m * (b - 1) + 1` paths are pending. Every child hits what its parent hits and a conflict set that
its parent does not hit. -/
theorem search_bounded_by_tree (conflicts : List (OrdSet α)) (selector : Selector α σ) (choices : σ)
    (rule : StopRule τ) (stop : τ) (b : ℕ) (hb : ∀ c ∈ conflicts, c.size ≤ b) :
    let walk := (SearchState.initial choices).after conflicts selector
    let result := search conflicts selector choices rule stop
    (conflicts ≠ [] → ∃ n ≤ ∑ i ∈ Finset.range (conflicts.length + 1), b ^ i,
        SearchState.EndsAfter conflicts selector rule (.initial choices) stop n result.status ∧
        result.visits = (walk n).visits.toList) ∧
      (∀ v ∈ result.visits, v.path.size ≤ conflicts.length) ∧
      result.statistics.nodesVisited ≤ ∑ i ∈ Finset.range (conflicts.length + 1), b ^ i ∧
      result.statistics.maxStackSize ≤ conflicts.length * (b - 1) + 1 ∧
      ∀ v ∈ result.visits, ∀ child ∈ v.children, v.path ⊆ child ∧
        ∃ c ∈ conflicts, (∀ a, a ∈ v.path → a ∉ c) ∧ ∃ a, a ∈ child ∧ a ∈ c := by
  intro walk result
  by_cases hnil : conflicts = []
  · subst hnil
    exact ⟨fun h => absurd rfl h, fun v hv => (by cases hv), Nat.zero_le _, Nat.zero_le _,
      fun v hv => (by cases hv)⟩
  · obtain ⟨ended, n, hresult, hstate, hends, _⟩ :=
      exists_ofEnd_search conflicts selector choices rule stop hnil
    have hbalanced := SearchState.balanced_after conflicts selector choices n
    have hbounded := SearchState.bounded_after hb selector choices n
    have hsize := hends.size_visits
    have hn : n ≤ ∑ i ∈ Finset.range (conflicts.length + 1), b ^ i := by
      have hnodes := (Nat.le_add_right _ _).trans hbounded.nodes
      rw [hsize] at hnodes
      exact (Nat.le_add_left n _).trans hnodes
    rw [← hstate] at hbalanced hbounded hsize
    change result = _ at hresult
    rw [hresult]
    refine ⟨fun _ => ⟨n, hn, hends, congrArg (fun st => st.visits.toList) hstate⟩, fun v hv => ?_,
      ?_, hbounded.maxPending, fun v hv child hchild => ?_⟩
    · exact hbounded.visited v (Array.mem_toList_iff.mp hv)
    · change ended.state.visits.toList.length ≤ _
      rw [Array.length_toList, hsize]
      exact (Nat.zero_add n).le.trans hn
    · obtain ⟨habove, c, hc, hits⟩ := Visit.hits_of_mem_children hchild
      obtain ⟨hmem, hdisjoint, _⟩ := hbalanced.branches v (Array.mem_toList_iff.mp hv) c hc
      exact ⟨habove, c, hmem, hdisjoint, hits⟩

/-- Two conflict sets without a common component: the search visits a whole tree of seven paths and
has as many of them pending as may be. -/
theorem search_bounded_by_tree_disjoint :
    let conflicts : List ComponentSet := [.ofList ["A", "B"], .ofList ["C", "D"]]
    let result := search conflicts Heuristic.random.selector (.ofSeed 7) (.timed frozenClock)
      ⟨.absent, 0⟩
    (∀ c ∈ conflicts, c.size ≤ 2) ∧
      result.statistics.nodesVisited ≤ 7 ∧ result.statistics.nodesVisited = 7 ∧
      result.statistics.maxStackSize ≤ 3 ∧ result.statistics.maxStackSize = 3 := by
  intro conflicts result
  have hb : ∀ c ∈ conflicts, c.size ≤ 2 := by decide
  obtain ⟨_, _, hnodes, hstack, _⟩ := search_bounded_by_tree conflicts Heuristic.random.selector
    (.ofSeed 7) (.timed frozenClock) ⟨.absent, 0⟩ 2 hb
  have hvalue : (result.statistics.nodesVisited, result.statistics.maxStackSize) = (7, 3) := by
    decide +kernel
  obtain ⟨hvisited, hpending⟩ := Prod.mk.inj hvalue
  exact ⟨hb, hnodes, hvisited, hstack, hpending⟩

end CircuitDiagnosis
