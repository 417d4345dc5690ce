import CircuitDiagnosis.HittingSet.Basic
import CircuitDiagnosis.HittingSet.Selector
import CircuitDiagnosis.HittingSet.StopCondition
import CircuitDiagnosis.OrdSet.Minimal

/-!
# Search for minimal hitting sets

The search walks a tree of paths. A path that hits every conflict set is a solution. A path within
which a recorded solution lies is pruned. Any other path branches on a conflict set that it does
not hit, with one child for each component of it. The pending paths are kept on a stack, the next
one in front, so that the walk goes depth first and through the children in increasing order.

A state of the walk is changed by `SearchState.visit`; `SearchState.advance` asks the stop rule and
then visits the next path; `SearchState.run` advances to the end. Every child covers a conflict set
that its parent does not, which bounds the walk (`stackWeight_extensions_lt`).
-/

namespace CircuitDiagnosis

open Std

universe u

/-- What became of a path that was visited. -/
inductive Finding (α : Type u) [Ord α] where
  /-- It hits every conflict set. -/
  | solution
  /-- A recorded solution lies within it. -/
  | pruned
  /-- It branches on the conflict set at a place in the list of those it does not hit. -/
  | expanded (place : Nat) (selected : OrdSet α)

/-- A path that was visited, the conflict sets that it does not hit, and what became of it. -/
structure Visit (α : Type u) [Ord α] where
  path : OrdSet α
  uncovered : List (OrdSet α)
  finding : Finding α

namespace Visit

variable {α : Type u} [Ord α]

/-- Whether the path was recorded as a solution. -/
def isSolution (v : Visit α) : Bool :=
  match v.finding with
  | .solution => true
  | _ => false

/-- Whether the path was pruned. -/
def isPruned (v : Visit α) : Bool :=
  match v.finding with
  | .pruned => true
  | _ => false

end Visit

/-- The state of a walk: the pending paths with the next one in front, the solutions and the visits
in order, the largest number of pending paths after an expansion, and the state of the selector. -/
structure SearchState (α : Type u) [Ord α] (σ : Type) where
  pending : List (OrdSet α)
  solutions : Array (OrdSet α)
  visits : Array (Visit α)
  maxPending : Nat
  selector : σ

/-- Whether a walk came to its end. -/
inductive SearchStatus where
  /-- Every path was visited. -/
  | complete
  /-- The stop rule ended the walk before. -/
  | incomplete
  deriving DecidableEq, Repr

/-- The name of a status. -/
def SearchStatus.text : SearchStatus → String
  | .complete => "complete"
  | .incomplete => "partial"

/-- How a walk ended. -/
structure SearchEnd (α : Type u) [Ord α] (σ τ : Type) where
  state : SearchState α σ
  stop : τ
  status : SearchStatus

section Walk

variable {α : Type u} [Ord α] [TransOrd α] {σ τ : Type}

/-! ### A measure of the pending paths -/

/-- The number of elements of all sets together. -/
def totalSize : List (OrdSet α) → Nat
  | [] => 0
  | c :: rest => c.size + totalSize rest

/-- A bound on the number of paths in the tree below a path. -/
def pathWeight (conflicts : List (OrdSet α)) (path : OrdSet α) : Nat :=
  Nat.pow (totalSize conflicts + 1) (OrdSet.uncovered conflicts path).length

/-- A bound on the number of paths that are still to be visited. -/
def stackWeight (conflicts : List (OrdSet α)) : List (OrdSet α) → Nat
  | [] => 0
  | path :: rest => pathWeight conflicts path + stackWeight conflicts rest

omit [TransOrd α] in
theorem pathWeight_pos (conflicts : List (OrdSet α)) (path : OrdSet α) :
    0 < pathWeight conflicts path :=
  Nat.pow_pos (Nat.succ_pos _)

omit [TransOrd α] in
theorem size_le_totalSize {conflicts : List (OrdSet α)} {c : OrdSet α} (h : c ∈ conflicts) :
    c.size ≤ totalSize conflicts := by
  induction conflicts with
  | nil => cases h
  | cons d rest ih =>
    rw [totalSize]
    rcases List.mem_cons.1 h with rfl | h
    · omega
    · have := ih h
      omega

omit [TransOrd α] in
theorem stackWeight_append (conflicts first second : List (OrdSet α)) :
    stackWeight conflicts (first ++ second) =
      stackWeight conflicts first + stackWeight conflicts second := by
  induction first with
  | nil => simp [stackWeight]
  | cons path rest ih => rw [List.cons_append, stackWeight, stackWeight, ih, Nat.add_assoc]

omit [TransOrd α] in
theorem stackWeight_le_length_mul {conflicts pending : List (OrdSet α)} {b : Nat}
    (h : ∀ path ∈ pending, pathWeight conflicts path ≤ b) :
    stackWeight conflicts pending ≤ pending.length * b := by
  induction pending with
  | nil => simp [stackWeight]
  | cons path rest ih =>
    have hpath := h path List.mem_cons_self
    have hrest := ih fun p hp => h p (List.mem_cons_of_mem _ hp)
    rw [stackWeight, List.length_cons, Nat.succ_mul]
    omega

/-- The children of a path weigh less than the path. -/
theorem stackWeight_extensions_lt [LawfulEqOrd α] {conflicts : List (OrdSet α)}
    {path c : OrdSet α} (hc : c ∈ OrdSet.uncovered conflicts path) :
    stackWeight conflicts (path.extensions c) < pathWeight conflicts path := by
  let b := totalSize conflicts
  let k := (OrdSet.uncovered conflicts path).length
  have hk : 0 < k := List.length_pos_of_mem hc
  have hle : ∀ t ∈ path.extensions c, pathWeight conflicts t ≤ (b + 1) ^ (k - 1) := by
    intro t ht
    have := OrdSet.length_uncovered_extension_lt hc ht
    exact Nat.pow_le_pow_right (Nat.succ_pos _) (by omega)
  have hsum := stackWeight_le_length_mul hle
  have hlen : (path.extensions c).length ≤ b :=
    Nat.le_trans (OrdSet.length_extensions_le path c)
      (size_le_totalSize (OrdSet.mem_uncovered.1 hc).1)
  have hmul := Nat.mul_le_mul_right ((b + 1) ^ (k - 1)) hlen
  have hpow : (b + 1) ^ k = (b + 1) ^ (k - 1) * (b + 1) := by
    rw [← Nat.pow_succ]
    congr 1
    omega
  have hpos : 0 < (b + 1) ^ (k - 1) := Nat.pow_pos (Nat.succ_pos _)
  have hdist : (b + 1) ^ (k - 1) * (b + 1) = b * (b + 1) ^ (k - 1) + (b + 1) ^ (k - 1) := by
    rw [Nat.mul_succ, Nat.mul_comm]
  change stackWeight conflicts (path.extensions c) < (b + 1) ^ k
  omega

omit [TransOrd α] in
/-- Without its first path a stack weighs less. -/
theorem stackWeight_lt_cons (conflicts : List (OrdSet α)) (path : OrdSet α)
    (rest : List (OrdSet α)) :
    stackWeight conflicts rest < stackWeight conflicts (path :: rest) :=
  Nat.lt_add_of_pos_left (pathWeight_pos conflicts path)

/-- With the children of its first path instead of this path a stack weighs less. -/
theorem stackWeight_extensions_append_lt [LawfulEqOrd α] {conflicts : List (OrdSet α)}
    {path c : OrdSet α} (hc : c ∈ OrdSet.uncovered conflicts path) (rest : List (OrdSet α)) :
    stackWeight conflicts (path.extensions c ++ rest) < stackWeight conflicts (path :: rest) := by
  rw [stackWeight_append, stackWeight]
  exact Nat.add_lt_add_right (stackWeight_extensions_lt hc) _

/-! ### The walk -/

namespace SearchState

/-- The state at the root of the tree. -/
def initial (selector : σ) : SearchState α σ := ⟨[∅], #[], #[], 0, selector⟩

/-- Visits a path while the paths `rest` stay pending. -/
def visit (conflicts : List (OrdSet α)) (selector : Selector α σ) (path : OrdSet α)
    (rest : List (OrdSet α)) (st : SearchState α σ) : SearchState α σ :=
  let sets := OrdSet.uncovered conflicts path
  if h : sets = [] then
    { st with
      pending := rest
      solutions := st.solutions.push path
      visits := st.visits.push ⟨path, sets, .solution⟩ }
  else if st.solutions.any fun s => s.subset path then
    { st with
      pending := rest
      visits := st.visits.push ⟨path, sets, .pruned⟩ }
  else
    let place := (selector.select sets st.selector).1
    let selected := sets.get ⟨place, selector.select_lt sets st.selector h⟩
    let pending := path.extensions selected ++ rest
    { pending := pending
      solutions := st.solutions
      visits := st.visits.push ⟨path, sets, .expanded place selected⟩
      maxPending := max st.maxPending pending.length
      selector := (selector.select sets st.selector).2 }

/-- A visit leaves less to be visited. -/
theorem stackWeight_visit_lt [LawfulEqOrd α] (conflicts : List (OrdSet α))
    (selector : Selector α σ) (path : OrdSet α) (rest : List (OrdSet α)) (st : SearchState α σ) :
    stackWeight conflicts (st.visit conflicts selector path rest).pending <
      stackWeight conflicts (path :: rest) := by
  simp only [visit]
  split
  · exact stackWeight_lt_cons conflicts path rest
  · split
    · exact stackWeight_lt_cons conflicts path rest
    · exact stackWeight_extensions_append_lt (List.get_mem _ _) rest

/-- Asks the stop rule and visits the next path, or ends the walk. -/
def advance (conflicts : List (OrdSet α)) (selector : Selector α σ) (rule : StopRule τ)
    (st : SearchState α σ) (stop : τ) : SearchState α σ × τ ⊕ SearchEnd α σ τ :=
  match st.pending with
  | [] => .inr ⟨st, stop, .complete⟩
  | path :: rest =>
    let asked := rule.shouldStop stop
    if asked.1 then .inr ⟨st, asked.2, .incomplete⟩
    else .inl (st.visit conflicts selector path rest, rule.nodeVisited asked.2)

theorem stackWeight_advance_lt [LawfulEqOrd α] {conflicts : List (OrdSet α)}
    {selector : Selector α σ} {rule : StopRule τ} {st next : SearchState α σ} {stop later : τ}
    (h : st.advance conflicts selector rule stop = .inl (next, later)) :
    stackWeight conflicts next.pending < stackWeight conflicts st.pending := by
  unfold advance at h
  split at h
  · simp at h
  · next path rest hp =>
    simp only at h
    split at h
    · simp at h
    · simp only [Sum.inl.injEq, Prod.mk.injEq] at h
      rw [← h.1, hp]
      exact stackWeight_visit_lt conflicts selector path rest st

/-- Advances until every path is visited or the stop rule ends the walk. -/
def run [LawfulEqOrd α] (conflicts : List (OrdSet α)) (selector : Selector α σ)
    (rule : StopRule τ) (st : SearchState α σ) (stop : τ) : SearchEnd α σ τ :=
  match _h : st.advance conflicts selector rule stop with
  | .inl (st, stop) => run conflicts selector rule st stop
  | .inr ended => ended
termination_by stackWeight conflicts st.pending
decreasing_by exact stackWeight_advance_lt _h

end SearchState

end Walk

/-! ### The result -/

/-- The counters of a search. -/
structure SearchStatistics where
  nodesVisited : Nat := 0
  numSolutionNodes : Nat := 0
  numPrunedNodes : Nat := 0
  maxStackSize : Nat := 0
  /-- The whole milliseconds that the search took. -/
  timeSpentInSearch : Nat := 0
  deriving DecidableEq, Repr, Inhabited

/-- The result of a search: the distinct solutions, the minimal ones among them, whether every path
was visited, how many paths were left, and the counters. -/
structure SearchResult (α : Type u) [Ord α] where
  hittingSets : List (OrdSet α)
  minimalHittingSets : List (OrdSet α)
  status : SearchStatus
  pending : Nat
  visits : List (Visit α)
  statistics : SearchStatistics

namespace SearchResult

variable {α : Type u} [Ord α] [TransOrd α] {σ τ : Type}

/-- Without conflict sets nothing is searched: the empty set is the hitting set. -/
def ofNoConflicts : SearchResult α := ⟨[∅], [∅], .complete, 0, [], {}⟩

/-- The result of a walk that took the given milliseconds. -/
def ofEnd (ended : SearchEnd α σ τ) (milliseconds : Nat) : SearchResult α :=
  let solutions := ended.state.solutions.toList
  let visits := ended.state.visits.toList
  { hittingSets := OrdSet.deduplicate solutions
    minimalHittingSets := OrdSet.retainMinimal solutions
    status := ended.status
    pending := ended.state.pending.length
    visits := visits
    statistics :=
      { nodesVisited := visits.length
        numSolutionNodes := visits.countP Visit.isSolution
        numPrunedNodes := visits.countP Visit.isPruned
        maxStackSize := ended.state.maxPending
        timeSpentInSearch := milliseconds } }

omit [TransOrd α] in
/-- Whether every path was visited. -/
def isComplete (r : SearchResult α) : Bool := r.status == .complete

end SearchResult

/-- Searches for the minimal hitting sets of a family of conflict sets. -/
def search {α : Type u} [Ord α] [TransOrd α] [LawfulEqOrd α] {σ τ : Type}
    (conflicts : List (OrdSet α)) (selector : Selector α σ) (choices : σ) (rule : StopRule τ)
    (stop : τ) : SearchResult α :=
  if conflicts.isEmpty then .ofNoConflicts
  else .ofEnd ((SearchState.initial choices).run conflicts selector rule stop) 0

end CircuitDiagnosis
