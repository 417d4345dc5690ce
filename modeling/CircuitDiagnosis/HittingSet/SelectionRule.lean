import CircuitDiagnosis.HittingSet.Search
import Mathlib.Data.List.Basic

/-!
# Selection rules

A selector comes with a proof that it stays in the list. A `SelectionRule` is any rule that answers
a list of sets with a place or refuses it: the heuristics with a source of random numbers are such
rules (`Heuristic.pickFrom`). A search by a rule (`SearchState.runBy`, `searchBy`) visits paths as
the search with a selector does, but looks the place up, and gives up if the rule refuses to answer
or the list has no such place (`SelectionFault`).

For the most frequent rule the elements may also be counted in one pass through the sets, into a map
in the order of its keys (`talliedIndex`).
-/

namespace CircuitDiagnosis

open Std (TransOrd LawfulEqOrd)

universe u

/-! ### Rules -/

/-- A rule that answers a list of sets with a place, or refuses it. -/
abbrev SelectionRule (α : Type u) [Ord α] (σ : Type) :=
  List (OrdSet α) → σ → Except EmptyRange (Nat × σ)

/-- Why a search by a rule gives up. -/
inductive SelectionFault where
  /-- The rule refuses to answer. -/
  | refused (range : EmptyRange)
  /-- The list has no such place. -/
  | outOfBounds (place length : Nat)
  deriving DecidableEq, Repr

variable {α : Type u} [Ord α] {σ τ ρ : Type}

/-- The place that a heuristic picks with a source of random numbers. -/
def Heuristic.pickFrom [TransOrd α] (source : RandomSource ρ) (h : Heuristic) : SelectionRule α ρ :=
  fun sets state =>
    match h with
    | .smallest => .ok (smallestIndex sets, state)
    | .mostFrequent => .ok (mostFrequentIndex sets, state)
    | .random => randomIndex source sets state

/-! ### Counting in one pass -/

/-- One more occurrence of an element. -/
def countOne (counts : Std.TreeMap α Nat) (a : α) : Std.TreeMap α Nat :=
  counts.alter a fun n => some (n.getD 0 + 1)

/-- The number of occurrences of each element, counted set after set and element after element. -/
def tally (sets : List (OrdSet α)) : Std.TreeMap α Nat :=
  (sets.flatMap OrdSet.toList).foldl countOne ∅

/-- The place of the first set with the element that was counted most often, the first one in the
order of the map if there are several; the first place of all if nothing was counted. -/
def talliedIndex (sets : List (OrdSet α)) : Nat :=
  match (tally sets).toList.maxOn? Prod.snd with
  | some e => sets.findIdx fun s => s.contains e.1
  | none => 0

/-! ### A search by a rule -/

namespace SearchState

variable [TransOrd α]

/-- Visits a path as `visit` does, with the answer of a rule looked up in the list. -/
def visitBy (conflicts : List (OrdSet α)) (pick : SelectionRule α σ) (path : OrdSet α)
    (rest : List (OrdSet α)) (st : SearchState α σ) : Except SelectionFault (SearchState α σ) :=
  let sets := OrdSet.uncovered conflicts path
  if sets = [] then
    .ok { st with
      pending := rest
      solutions := st.solutions.push path
      visits := st.visits.push ⟨path, sets, .solution⟩ }
  else if st.solutions.any fun s => s.subset path then
    .ok { st with
      pending := rest
      visits := st.visits.push ⟨path, sets, .pruned⟩ }
  else
    match pick sets st.selector with
    | .error range => .error (.refused range)
    | .ok (place, later) =>
      match sets[place]? with
      | none => .error (.outOfBounds place sets.length)
      | some selected =>
        let pending := path.extensions selected ++ rest
        .ok
          { pending := pending
            solutions := st.solutions
            visits := st.visits.push ⟨path, sets, .expanded place selected⟩
            maxPending := max st.maxPending pending.length
            selector := later }

/-- Asks the stop rule and visits the next path, or ends the walk. -/
def advanceBy (conflicts : List (OrdSet α)) (pick : SelectionRule α σ) (rule : StopRule τ)
    (st : SearchState α σ) (stop : τ) :
    Except SelectionFault (SearchState α σ × τ ⊕ SearchEnd α σ τ) :=
  match st.pending with
  | [] => .ok (.inr ⟨st, stop, .complete⟩)
  | path :: rest =>
    let asked := rule.shouldStop stop
    if asked.1 then .ok (.inr ⟨st, asked.2, .incomplete⟩)
    else
      (st.visitBy conflicts pick path rest).map fun next => .inl (next, rule.nodeVisited asked.2)

theorem stackWeight_visitBy_lt [LawfulEqOrd α] {conflicts : List (OrdSet α)}
    {pick : SelectionRule α σ} {path : OrdSet α} {rest : List (OrdSet α)}
    {st next : SearchState α σ} (h : st.visitBy conflicts pick path rest = .ok next) :
    stackWeight conflicts next.pending < stackWeight conflicts (path :: rest) := by
  simp only [visitBy] at h
  split at h
  · cases h
    exact stackWeight_lt_cons conflicts path rest
  · split at h
    · cases h
      exact stackWeight_lt_cons conflicts path rest
    · split at h
      · cases h
      · split at h
        · cases h
        · next selected hselected =>
          cases h
          exact stackWeight_extensions_append_lt (List.mem_of_getElem? hselected) rest

theorem stackWeight_advanceBy_lt [LawfulEqOrd α] {conflicts : List (OrdSet α)}
    {pick : SelectionRule α σ} {rule : StopRule τ} {st next : SearchState α σ} {stop later : τ}
    (h : st.advanceBy conflicts pick rule stop = .ok (.inl (next, later))) :
    stackWeight conflicts next.pending < stackWeight conflicts st.pending := by
  unfold advanceBy at h
  split at h
  · cases h
  · next path rest hp =>
    simp only at h
    split at h
    · cases h
    · cases hv : st.visitBy conflicts pick path rest with
      | error fault =>
          rw [hv] at h
          cases h
      | ok visited =>
          rw [hv] at h
          cases h
          rw [hp]
          exact stackWeight_visitBy_lt hv

/-- Advances until every path is visited, the stop rule ends the walk, or the rule fails. -/
def runBy [LawfulEqOrd α] (conflicts : List (OrdSet α)) (pick : SelectionRule α σ)
    (rule : StopRule τ) (st : SearchState α σ) (stop : τ) :
    Except SelectionFault (SearchEnd α σ τ) :=
  match _h : st.advanceBy conflicts pick rule stop with
  | .error fault => .error fault
  | .ok (.inl (st, stop)) => runBy conflicts pick rule st stop
  | .ok (.inr ended) => .ok ended
termination_by stackWeight conflicts st.pending
decreasing_by exact stackWeight_advanceBy_lt _h

end SearchState

/-- Searches for the minimal hitting sets by a rule. -/
def searchBy [TransOrd α] [LawfulEqOrd α] (conflicts : List (OrdSet α)) (pick : SelectionRule α σ)
    (choices : σ) (rule : StopRule τ) (stop : τ) : Except SelectionFault (SearchResult α) :=
  if conflicts.isEmpty then .ok .ofNoConflicts
  else
    ((SearchState.initial choices).runBy conflicts pick rule stop).map fun ended => .ofEnd ended 0

end CircuitDiagnosis
