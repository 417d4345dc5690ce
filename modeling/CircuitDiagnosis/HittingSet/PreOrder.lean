import CircuitDiagnosis.HittingSet.Search

/-!
# The search as a recursion

The tree of a search written as a recursive walk in pre-order: a path is visited, then recorded if
it hits every conflict set, and expanded otherwise; in the last case its children are walked in
increasing order. The walk may also prune, that is, leave a path alone within which a recorded
solution lies. A walk that the stop rule has ended does nothing more.
-/

namespace CircuitDiagnosis

open Std

universe u

/-- What a recursive walk has done so far. -/
structure Walk (α : Type u) [Ord α] (σ τ : Type) where
  solutions : Array (OrdSet α)
  visits : Array (Visit α)
  selector : σ
  stop : τ
  stopped : Bool

namespace Walk

variable {α : Type u} [Ord α] [TransOrd α] {σ τ : Type}

omit [TransOrd α] in
/-- A walk that has done nothing. -/
def initial (selector : σ) (stop : τ) : Walk α σ τ := ⟨#[], #[], selector, stop, false⟩

omit [TransOrd α] in
/-- Whether the stop rule ended the walk. -/
def status (w : Walk α σ τ) : SearchStatus := if w.stopped then .incomplete else .complete

/-- Walks the tree below a path; `prunes` says whether it prunes. -/
def walk [LawfulEqOrd α] (prunes : Bool) (conflicts : List (OrdSet α)) (selector : Selector α σ)
    (rule : StopRule τ) (path : OrdSet α) (w : Walk α σ τ) : Walk α σ τ :=
  if w.stopped then w
  else
    let asked := rule.shouldStop w.stop
    if asked.1 then { w with stop := asked.2, stopped := true }
    else
      let stop := rule.nodeVisited asked.2
      let sets := OrdSet.uncovered conflicts path
      if h : sets = [] then
        { w with
          solutions := w.solutions.push path
          visits := w.visits.push ⟨path, sets, .solution⟩
          stop := stop }
      else if prunes && w.solutions.any fun s => s.subset path then
        { w with
          visits := w.visits.push ⟨path, sets, .pruned⟩
          stop := stop }
      else
        let place := (selector.select sets w.selector).1
        let selected := sets.get ⟨place, selector.select_lt sets w.selector h⟩
        (path.extensions selected).attach.foldl
          (fun w child => walk prunes conflicts selector rule child.1 w)
          { w with
            visits := w.visits.push ⟨path, sets, .expanded place selected⟩
            selector := (selector.select sets w.selector).2
            stop := stop }
termination_by (OrdSet.uncovered conflicts path).length
decreasing_by exact OrdSet.length_uncovered_extension_lt (List.get_mem _ _) child.2

end Walk

end CircuitDiagnosis
