import CircuitDiagnosis.Circuit.Component
import CircuitDiagnosis.Proofs.HittingSet.Choice
import CircuitDiagnosis.Proofs.HittingSet.Walk

/-!
# Choices in bounds

A rule that stays in every non-empty list never makes a search give up, because a path is only
expanded if there are conflict sets that it does not hit; so the search by such a rule is the search
with the selector of the rule (`SearchState.runBy_eq_run`).

The random rule asks a source of numbers, and `RandomSource.recorded` writes down what it is asked
for. A visit asks about the places of the list that it branches on, and only then
(`SearchState.ChoosesBy.visit`), hence a run never asks about an empty range
(`selectors_choose_as_promised`).
-/

namespace CircuitDiagnosis

open Std (TransOrd LawfulEqOrd)

universe u

/-! ### Rules -/

variable {α : Type u} [Ord α] {σ σ' τ ρ : Type}

/-- The rule answers every non-empty list with a place of it. -/
def SelectionRule.InBounds (pick : SelectionRule α σ) : Prop :=
  ∀ sets state, sets ≠ [] →
    ∃ place later, pick sets state = .ok (place, later) ∧ place < sets.length

/-- The selector of a rule that stays in the list. -/
def Selector.ofRule (pick : SelectionRule α σ) (h : pick.InBounds) : Selector α σ where
  select sets state :=
    match pick sets state with
    | .ok choice => choice
    | .error _ => (0, state)
  select_lt sets state hne := by
    obtain ⟨place, later, hpick, hlt⟩ := h sets state hne
    rw [hpick]
    exact hlt

theorem Selector.ofRule_select {pick : SelectionRule α σ} (h : pick.InBounds)
    {sets : List (OrdSet α)} {state : σ} {choice : Nat × σ} (hpick : pick sets state = .ok choice) :
    (Selector.ofRule pick h).select sets state = choice := by
  unfold ofRule
  dsimp only
  rw [hpick]

/-! ### A search by a rule -/

namespace SearchState

variable [TransOrd α] [LawfulEqOrd α]

section Run

variable {conflicts : List (OrdSet α)} {pick : SelectionRule α σ} {rule : StopRule τ}
  {st next : SearchState α σ} {stop later : τ}

theorem runBy_of_error {fault : SelectionFault}
    (h : st.advanceBy conflicts pick rule stop = .error fault) :
    st.runBy conflicts pick rule stop = .error fault := by
  rw [runBy]
  split
  · next he => rw [h] at he; cases he; rfl
  · next he => rw [h] at he; cases he
  · next he => rw [h] at he; cases he

theorem runBy_of_inl (h : st.advanceBy conflicts pick rule stop = .ok (.inl (next, later))) :
    st.runBy conflicts pick rule stop = next.runBy conflicts pick rule later := by
  rw [runBy]
  split
  · next he => rw [h] at he; cases he
  · next he => rw [h] at he; cases he; rfl
  · next he => rw [h] at he; cases he

theorem runBy_of_inr {ended : SearchEnd α σ τ}
    (h : st.advanceBy conflicts pick rule stop = .ok (.inr ended)) :
    st.runBy conflicts pick rule stop = .ok ended := by
  rw [runBy]
  split
  · next he => rw [h] at he; cases he
  · next he => rw [h] at he; cases he
  · next he => rw [h] at he; cases he; rfl

end Run

/-! ### Rules that stay in the list -/

section InBounds

variable (conflicts : List (OrdSet α)) {pick : SelectionRule α σ} (hin : pick.InBounds)
  (rule : StopRule τ)

theorem visitBy_eq_visit (path : OrdSet α) (rest : List (OrdSet α)) (st : SearchState α σ) :
    st.visitBy conflicts pick path rest =
      .ok (st.visit conflicts (.ofRule pick hin) path rest) := by
  have hnil : OrdSet.uncovered conflicts path = [] ↔ path.Hits conflicts :=
    OrdSet.uncovered_eq_nil_iff
  rcases visit_cases conflicts (.ofRule pick hin) path rest st with
    ⟨hits, hv⟩ | ⟨hnot, hsome, hv⟩ | ⟨hnot, hnone, place, selected, hplace, hget, hv⟩
  · unfold visitBy
    rw [hv]
    exact if_pos (hnil.mpr hits)
  · unfold visitBy
    rw [hv]
    dsimp only
    rw [if_neg (mt hnil.mp hnot), if_pos (any_subset_iff.mpr hsome)]
  · have hopen : ¬ (st.solutions.any fun s => s.subset path) = true := by
      intro hany
      obtain ⟨s, hs, hsub⟩ := any_subset_iff.mp hany
      exact hnone s hs hsub
    obtain ⟨answer, later, hpick, _⟩ := hin _ st.selector (mt hnil.mp hnot)
    rw [Selector.ofRule_select hin hpick] at hplace hv
    obtain rfl : answer = place := congrArg Prod.fst hplace
    unfold visitBy
    rw [hv]
    dsimp only
    rw [if_neg (mt hnil.mp hnot), if_neg hopen, hpick]
    dsimp only
    rw [hget]

theorem advanceBy_eq_advance (st : SearchState α σ) (stop : τ) :
    st.advanceBy conflicts pick rule stop =
      .ok (st.advance conflicts (.ofRule pick hin) rule stop) := by
  unfold advanceBy advance
  cases st.pending with
  | nil => rfl
  | cons path rest =>
      dsimp only
      split
      · rfl
      · rw [visitBy_eq_visit conflicts hin]
        rfl

/-- A search by a rule that stays in every non-empty list is the search with its selector. -/
theorem runBy_eq_run (st : SearchState α σ) (stop : τ) :
    st.runBy conflicts pick rule stop =
      .ok (st.run conflicts (.ofRule pick hin) rule stop) := by
  -- The induction goes along the run of the search with the selector.
  induction st, stop using run.induct conflicts (.ofRule pick hin) rule with
  | case1 st stop next later hstep ih =>
      have hadvance := advanceBy_eq_advance conflicts hin rule st stop
      rw [hstep] at hadvance
      rw [runBy_of_inl hadvance, run_of_inl _ _ _ hstep]
      exact ih
  | case2 st stop ended hstep =>
      have hadvance := advanceBy_eq_advance conflicts hin rule st stop
      rw [hstep] at hadvance
      rw [runBy_of_inr hadvance, run_of_inr _ _ _ hstep]

end InBounds

end SearchState

theorem searchBy_eq_search [TransOrd α] [LawfulEqOrd α] (conflicts : List (OrdSet α))
    {pick : SelectionRule α σ} (hin : pick.InBounds) (choices : σ) (rule : StopRule τ) (stop : τ) :
    searchBy conflicts pick choices rule stop =
      .ok (search conflicts (.ofRule pick hin) choices rule stop) := by
  unfold searchBy search
  split
  · rfl
  · rw [SearchState.runBy_eq_run conflicts hin]
    rfl

/-! ### Rules that give the same answers -/

/-- The walk with another state of the selector. -/
def SearchState.mapSelector (f : σ → σ') (st : SearchState α σ) : SearchState α σ' :=
  ⟨st.pending, st.solutions, st.visits, st.maxPending, f st.selector⟩

/-- The end of a walk with another state of the selector. -/
def SearchEnd.mapSelector (f : σ → σ') (ended : SearchEnd α σ τ) : SearchEnd α σ' τ :=
  ⟨ended.state.mapSelector f, ended.stop, ended.status⟩

namespace SearchState

section Map

variable [TransOrd α] [LawfulEqOrd α] (conflicts : List (OrdSet α)) {f : σ → σ'}
  {pick : SelectionRule α σ} {pick' : SelectionRule α σ'} (rule : StopRule τ)
  (hpick : ∀ sets state, sets ≠ [] → pick' sets (f state) = (pick sets state).map (Prod.map id f))

include hpick

omit [LawfulEqOrd α] in
theorem visitBy_mapSelector (path : OrdSet α) (rest : List (OrdSet α)) (st : SearchState α σ) :
    (st.mapSelector f).visitBy conflicts pick' path rest =
      (st.visitBy conflicts pick path rest).map (mapSelector f) := by
  unfold visitBy mapSelector
  dsimp only
  split
  · rfl
  · next hne =>
    split
    · rfl
    · rw [hpick _ _ hne]
      cases pick (OrdSet.uncovered conflicts path) st.selector with
      | error range => rfl
      | ok choice =>
          dsimp only [Except.map, Prod.map, id]
          cases (OrdSet.uncovered conflicts path)[choice.1]? with
          | none => rfl
          | some selected => rfl

omit [LawfulEqOrd α] in
theorem advanceBy_mapSelector (st : SearchState α σ) (stop : τ) :
    (st.mapSelector f).advanceBy conflicts pick' rule stop =
      (st.advanceBy conflicts pick rule stop).map
        (Sum.map (Prod.map (mapSelector f) id) (SearchEnd.mapSelector f)) := by
  have hpending : (st.mapSelector f).pending = st.pending := rfl
  unfold advanceBy
  rw [hpending]
  cases st.pending with
  | nil => rfl
  | cons path rest =>
      dsimp only
      split
      · rfl
      · rw [visitBy_mapSelector conflicts hpick]
        cases st.visitBy conflicts pick path rest with
        | error fault => rfl
        | ok next => rfl

/-- Only the answers to non-empty lists matter for a search by a rule, and only what the rule makes
of its state. -/
theorem runBy_mapSelector (st : SearchState α σ) (stop : τ) :
    (st.mapSelector f).runBy conflicts pick' rule stop =
      (st.runBy conflicts pick rule stop).map (SearchEnd.mapSelector f) := by
  induction st, stop using runBy.induct conflicts pick rule with
  | case1 st stop fault hstep =>
      have hadvance := advanceBy_mapSelector conflicts rule hpick st stop
      rw [hstep] at hadvance
      rw [runBy_of_error hadvance, runBy_of_error hstep]
      rfl
  | case2 st stop next later hstep ih =>
      have hadvance := advanceBy_mapSelector conflicts rule hpick st stop
      rw [hstep] at hadvance
      rw [runBy_of_inl hadvance, runBy_of_inl hstep]
      exact ih
  | case3 st stop ended hstep =>
      have hadvance := advanceBy_mapSelector conflicts rule hpick st stop
      rw [hstep] at hadvance
      rw [runBy_of_inr hadvance, runBy_of_inr hstep]
      rfl

end Map

/-- Rules with the same answers to non-empty lists lead to the same run. -/
theorem runBy_congr [TransOrd α] [LawfulEqOrd α] (conflicts : List (OrdSet α))
    {pick pick' : SelectionRule α σ} (rule : StopRule τ)
    (h : ∀ sets state, sets ≠ [] → pick' sets state = pick sets state) (st : SearchState α σ)
    (stop : τ) : st.runBy conflicts pick' rule stop = st.runBy conflicts pick rule stop := by
  have hpick : ∀ sets state, sets ≠ [] →
      pick' sets (id state) = (pick sets state).map (Prod.map id id) := by
    intro sets state hne
    rw [Prod.map_id, Except.map_id]
    exact h sets state hne
  have hsame : (SearchEnd.mapSelector id : SearchEnd α σ τ → SearchEnd α σ τ) = id := rfl
  have hmap := runBy_mapSelector conflicts rule hpick st stop
  rw [hsame, Except.map_id] at hmap
  exact hmap

end SearchState

/-! ### Sources of random numbers -/

namespace RandomSource

/-- The source answers a question with a number of the range asked for. -/
def AnswersAt (source : RandomSource ρ) (low high : Nat) (state : ρ) : Prop :=
  ∃ n later, source.sample low high state = .ok (n, later) ∧ low ≤ n ∧ n < high

/-- The source answers about every range that holds a number. -/
def Answers (source : RandomSource ρ) : Prop :=
  ∀ low high state, low < high → source.AnswersAt low high state

/-- The source together with the ranges that it was asked for. -/
def recorded (source : RandomSource ρ) : RandomSource (ρ × List (Nat × Nat)) where
  sample low high state :=
    (source.sample low high state.1).map fun answer =>
      (answer.1, (answer.2, state.2 ++ [(low, high)]))

theorem answers_generator : Generator.source.Answers := by
  intro low high g hlt
  have hbelow := Generator.below_lt (Nat.sub_pos_of_lt hlt) g
  refine ⟨_, _, if_pos hlt, Nat.le_add_right _ _, ?_⟩
  change low + (g.below (high - low)).1 < high
  omega

theorem Answers.recorded {source : RandomSource ρ} (h : source.Answers) :
    source.recorded.Answers := by
  intro low high state hlt
  obtain ⟨n, later, hsample, hlow, hhigh⟩ := h low high state.1 hlt
  refine ⟨n, (later, state.2 ++ [(low, high)]), ?_, hlow, hhigh⟩
  unfold RandomSource.recorded
  dsimp only
  rw [hsample]
  rfl

end RandomSource

namespace Heuristic

theorem pickFrom_generator [TransOrd α] (h : Heuristic) (sets : List (OrdSet α)) (g : Generator) :
    h.pickFrom Generator.source sets g = h.pick sets g := by
  cases h <;> rfl

variable [TransOrd α] [LawfulEqOrd α] {source : RandomSource ρ}

/-- A heuristic picks a place as promised, the random one if its source answers. -/
theorem chooses_pickFrom (h : Heuristic) {sets : List (OrdSet α)} (hne : sets ≠ []) (state : ρ)
    (hanswers : h = .random → source.AnswersAt 0 sets.length state) :
    ∃ place later, h.pickFrom source sets state = .ok (place, later) ∧ h.Chooses sets place := by
  cases h with
  | smallest => exact ⟨_, _, rfl, chooses_smallestIndex hne⟩
  | mostFrequent => exact ⟨_, _, rfl, chooses_mostFrequentIndex⟩
  | random =>
      obtain ⟨n, later, hsample, _, hlt⟩ := hanswers rfl
      exact ⟨n, later, hsample, hlt⟩

theorem inBounds_pickFrom (h : Heuristic) (hanswers : source.Answers) :
    (h.pickFrom source : SelectionRule α ρ).InBounds := by
  intro sets state hne
  obtain ⟨place, later, hpick, hchooses⟩ :=
    h.chooses_pickFrom hne state fun _ => hanswers 0 _ state (List.length_pos_iff.mpr hne)
  exact ⟨place, later, hpick, hchooses.lt_length hne⟩

theorem inBounds_pick (h : Heuristic) :
    SelectionRule.InBounds fun (sets : List (OrdSet α)) g => h.pick sets g := by
  intro sets g hne
  dsimp only
  rw [← h.pickFrom_generator]
  exact h.inBounds_pickFrom RandomSource.answers_generator sets g hne

theorem selector_eq_ofRule (h : Heuristic) :
    (h.selector : Selector α Generator) = .ofRule _ h.inBounds_pick := by
  unfold selector Selector.ofRule
  congr 1
  funext sets g
  unfold choose
  dsimp only
  cases h.pick sets g with
  | ok choice => rfl
  | error range => rfl

omit [LawfulEqOrd α] in
/-- With a source that is recorded a heuristic answers the same. Only the random rule asks, and only
for a place of the list. -/
theorem pickFrom_recorded (source : RandomSource ρ) (h : Heuristic) (sets : List (OrdSet α))
    (state : ρ × List (Nat × Nat)) :
    h.pickFrom source.recorded sets state = (h.pickFrom source sets state.1).map fun choice =>
      (choice.1, (choice.2, state.2 ++ if h = .random then [(0, sets.length)] else [])) := by
  cases h with
  | smallest => simp [pickFrom, Except.map]
  | mostFrequent => simp [pickFrom, Except.map]
  | random => rfl

omit [LawfulEqOrd α] in
theorem asked_pickFrom (h : Heuristic) {sets : List (OrdSet α)}
    {state later : ρ × List (Nat × Nat)} {place : Nat}
    (hpick : h.pickFrom source.recorded sets state = .ok (place, later)) :
    later.2 = state.2 ++ if h = .random then [(0, sets.length)] else [] := by
  rw [pickFrom_recorded] at hpick
  cases hchoice : h.pickFrom source sets state.1 with
  | error range =>
      rw [hchoice] at hpick
      cases hpick
  | ok choice =>
      rw [hchoice] at hpick
      cases hpick
      rfl

end Heuristic

/-! ### The questions of a run -/

/-- The range about which a visit asks a source of random numbers, if it does. -/
def Visit.range? (v : Visit α) : Option (Nat × Nat) :=
  match v.finding with
  | .expanded _ _ => some (0, v.uncovered.length)
  | _ => none

/-- If a visit branches, then its path does not hit every conflict set, and it branches on the one
at a place among those left that is as the heuristic promises. -/
def Visit.ChosenBy (h : Heuristic) (conflicts : List (OrdSet α)) (v : Visit α) : Prop :=
  ∀ place selected, v.finding = .expanded place selected →
    v.uncovered = OrdSet.uncovered conflicts v.path ∧ v.uncovered ≠ [] ∧
      v.uncovered[place]? = some selected ∧ h.Chooses v.uncovered place

namespace SearchState

/-- Every visit of a walk branches as promised, and a random source was asked for one place of the
list each time, and for nothing else. -/
structure ChoosesBy (h : Heuristic) (conflicts : List (OrdSet α))
    (st : SearchState α (ρ × List (Nat × Nat))) : Prop where
  chosen : ∀ v ∈ st.visits, v.ChosenBy h conflicts
  asked : st.selector.2 = if h = .random then st.visits.toList.filterMap Visit.range? else []

theorem choosesBy_initial (h : Heuristic) (conflicts : List (OrdSet α)) (state : ρ) :
    (initial (state, []) : SearchState α (ρ × List (Nat × Nat))).ChoosesBy h conflicts where
  chosen v hv := absurd hv (Array.not_mem_empty v)
  asked := by split <;> rfl

/-- One more visit keeps the choices as promised if its own is. -/
theorem ChoosesBy.push {h : Heuristic} {conflicts : List (OrdSet α)}
    {st next : SearchState α (ρ × List (Nat × Nat))} (hst : st.ChoosesBy h conflicts) {v : Visit α}
    (hvisits : next.visits = st.visits.push v) (hchosen : v.ChosenBy h conflicts)
    (hasked : next.selector.2 = st.selector.2 ++ if h = .random then v.range?.toList else []) :
    next.ChoosesBy h conflicts := by
  constructor
  · rw [hvisits]
    intro w hw
    rcases Array.mem_push.mp hw with hw | rfl
    · exact hst.chosen w hw
    · exact hchosen
  · rw [hasked, hst.asked, hvisits, Array.toList_push, List.filterMap_append]
    by_cases hrandom : h = .random
    · rw [if_pos hrandom, if_pos hrandom, if_pos hrandom]
      cases hrange : v.range? <;> simp [hrange]
    · rw [if_neg hrandom, if_neg hrandom, if_neg hrandom]
      rfl

/-- In a run no range was asked for that holds no number. -/
theorem ChoosesBy.lt_of_asked {h : Heuristic} {conflicts : List (OrdSet α)}
    {st : SearchState α (ρ × List (Nat × Nat))} (hst : st.ChoosesBy h conflicts) :
    ∀ range ∈ st.selector.2, range.1 < range.2 := by
  intro range hrange
  rw [hst.asked] at hrange
  split at hrange
  · obtain ⟨v, hv, hv'⟩ := List.mem_filterMap.mp hrange
    unfold Visit.range? at hv'
    split at hv'
    · next place selected hfinding =>
      obtain ⟨_, hne, _⟩ := hst.chosen v (Array.mem_toList_iff.mp hv) place selected hfinding
      obtain rfl : (0, v.uncovered.length) = range := Option.some.inj hv'
      exact List.length_pos_iff.mpr hne
    · cases hv'
  · cases hrange

variable [TransOrd α] [LawfulEqOrd α]

/-- A visit chooses as promised and asks for a place of the list that it branches on. -/
theorem ChoosesBy.visit {source : RandomSource ρ} (hanswers : source.Answers) {h : Heuristic}
    {conflicts : List (OrdSet α)} (path : OrdSet α) (rest : List (OrdSet α))
    {st : SearchState α (ρ × List (Nat × Nat))} (hst : st.ChoosesBy h conflicts) :
    (st.visit conflicts (.ofRule _ (h.inBounds_pickFrom hanswers.recorded)) path
      rest).ChoosesBy h conflicts := by
  have hin : SelectionRule.InBounds (α := α) (h.pickFrom source.recorded) :=
    h.inBounds_pickFrom hanswers.recorded
  rcases visit_cases conflicts (.ofRule _ hin) path rest st with
    ⟨_, hv⟩ | ⟨_, _, hv⟩ | ⟨hnot, _, place, selected, hplace, hget, hv⟩
  · rw [hv]
    refine hst.push rfl (fun _ _ hf => by cases hf) ?_
    split <;> exact (List.append_nil _).symm
  · rw [hv]
    refine hst.push rfl (fun _ _ hf => by cases hf) ?_
    split <;> exact (List.append_nil _).symm
  · have hne : OrdSet.uncovered conflicts path ≠ [] := mt OrdSet.uncovered_eq_nil_iff.mp hnot
    obtain ⟨answer, later, hpick, hchooses⟩ :=
      h.chooses_pickFrom hne st.selector fun _ =>
        hanswers.recorded 0 _ st.selector (List.length_pos_iff.mpr hne)
    rw [Selector.ofRule_select hin hpick] at hplace hv
    obtain rfl : answer = place := congrArg Prod.fst hplace
    rw [hv]
    refine hst.push rfl ?_ (h.asked_pickFrom hpick)
    intro _ _ hf
    cases hf
    exact ⟨rfl, hne, hget, hchooses⟩

/-- A search by a heuristic with a source that answers is never at a loss for a set to branch on,
and all its choices and questions are in order. -/
theorem exists_runBy_recorded {source : RandomSource ρ} (hanswers : source.Answers)
    (h : Heuristic) (conflicts : List (OrdSet α)) (rule : StopRule τ) (stop : τ) (state : ρ) :
    ∃ ended : SearchEnd α (ρ × List (Nat × Nat)) τ,
      (initial (state, [])).runBy conflicts (h.pickFrom source.recorded) rule stop = .ok ended ∧
      ended.state.ChoosesBy h conflicts :=
  ⟨_, runBy_eq_run conflicts (h.inBounds_pickFrom hanswers.recorded) rule _ stop,
    run_preserves conflicts _ rule (fun _ path rest _ hst => hst.visit hanswers path rest) stop
      (choosesBy_initial h conflicts state)⟩

end SearchState

variable [TransOrd α] [LawfulEqOrd α]

/-- **The selectors choose what they promise and never leave the list.** In a non-empty list, the
smallest rule picks the first place of a smallest set. The most frequent rule picks the first place
of a set with the most frequent element, and the same place if all elements are counted in one pass.
The random rule picks the place that its source answers if this is one of the list.

So a search by a heuristic never gives up if its source answers about every range that holds a
number: a path is only expanded if there are conflict sets that it does not hit, and the place
chosen among these is in bounds. The random rule asks its source for a place in each of these lists
and for nothing else, so no range that it asks for is empty. Of any other source, too, what it would
say about empty ranges makes no difference to a run. The generator of the heuristics answers, and
the search with the selector of a heuristic is the search by the heuristic. -/
theorem selectors_choose_as_promised (source : RandomSource ρ) (rule : StopRule τ) (stop : τ) :
    (∀ sets : List (OrdSet α), sets ≠ [] →
      talliedIndex sets = mostFrequentIndex sets ∧
        ∀ (h : Heuristic) (state : ρ),
          (h = .random → source.AnswersAt 0 sets.length state) →
            ∃ place later, h.pickFrom source sets state = .ok (place, later) ∧
              place < sets.length ∧ h.Chooses sets place) ∧
      (source.Answers → ∀ (h : Heuristic) (conflicts : List (OrdSet α)) (state : ρ),
        ∃ ended : SearchEnd α (ρ × List (Nat × Nat)) τ,
          (SearchState.initial (state, [])).runBy conflicts (h.pickFrom source.recorded) rule stop =
              .ok ended ∧
            (SearchState.initial state).runBy conflicts (h.pickFrom source) rule stop =
              .ok (ended.mapSelector Prod.fst) ∧
            ended.state.ChoosesBy h conflicts ∧
            ∀ range ∈ ended.state.selector.2, range.1 < range.2) ∧
      (∀ source' : RandomSource ρ,
        (∀ low high state, low < high →
          source'.sample low high state = source.sample low high state) →
            ∀ (h : Heuristic) (conflicts : List (OrdSet α)) (state : ρ),
              (SearchState.initial state).runBy conflicts (h.pickFrom source') rule stop =
                (SearchState.initial state).runBy conflicts (h.pickFrom source) rule stop) ∧
      Generator.source.Answers ∧
      ∀ (h : Heuristic) (conflicts : List (OrdSet α)) (g : Generator),
        (∀ sets : List (OrdSet α), h.pick sets g = h.pickFrom Generator.source sets g) ∧
          searchBy conflicts (fun sets g => h.pick sets g) g rule stop =
            .ok (search conflicts h.selector g rule stop) := by
  refine ⟨fun sets hne => ⟨talliedIndex_eq sets, fun h state hanswers => ?_⟩,
    fun hanswers h conflicts state => ?_, fun source' hsame h conflicts state => ?_,
    RandomSource.answers_generator, fun h conflicts g => ⟨fun sets => ?_, ?_⟩⟩
  · obtain ⟨place, later, hpick, hchooses⟩ := h.chooses_pickFrom hne state hanswers
    exact ⟨place, later, hpick, hchooses.lt_length hne, hchooses⟩
  · obtain ⟨ended, hrun, hchooses⟩ :=
      SearchState.exists_runBy_recorded hanswers h conflicts rule stop state
    refine ⟨ended, hrun, ?_, hchooses, hchooses.lt_of_asked⟩
    have hforget : ∀ (sets : List (OrdSet α)) later, sets ≠ [] →
        h.pickFrom source sets later.1 =
          (h.pickFrom source.recorded sets later).map (Prod.map id Prod.fst) := by
      intro sets later _
      rw [h.pickFrom_recorded]
      cases h.pickFrom source sets later.1 <;> rfl
    have hmap := SearchState.runBy_mapSelector conflicts rule
      (f := Prod.fst) hforget (.initial (state, [])) stop
    rw [hrun] at hmap
    exact hmap
  · refine SearchState.runBy_congr conflicts rule (fun sets later hne => ?_) _ stop
    cases h with
    | smallest => rfl
    | mostFrequent => rfl
    | random => exact hsame 0 sets.length later (List.length_pos_iff.mpr hne)
  · exact (h.pickFrom_generator sets g).symm
  · rw [searchBy_eq_search conflicts h.inBounds_pick, h.selector_eq_ofRule]

/-- A random search of three conflict sets with a source that counts up from zero: four paths are
expanded, and the source is asked for a place among three, two, one and one sets. A source that
refuses empty ranges leads to the same run. -/
theorem selectors_choose_as_promised_three_sets :
    let source : RandomSource Nat := ⟨fun low high n => .ok (low + n % (high - low), n + 1)⟩
    let strict : RandomSource Nat :=
      ⟨fun low high n => if low < high then source.sample low high n else .error ⟨low, high⟩⟩
    let conflicts : List ComponentSet :=
      [.ofList ["A", "B"], .ofList ["B", "C"], .ofList ["C", "D"]]
    let initial : SearchState ComponentId (Nat × List (Nat × Nat)) := .initial (0, [])
    conflicts ≠ [] ∧ source.Answers ∧
      (∀ low high n, low < high → strict.sample low high n = source.sample low high n) ∧
      Heuristic.random.pickFrom source conflicts 5 = .ok (2, 6) ∧
      Heuristic.random.Chooses conflicts 2 ∧
      (∃ ended : SearchEnd ComponentId (Nat × List (Nat × Nat)) Unit,
        initial.runBy conflicts (Heuristic.random.pickFrom source.recorded) .never () = .ok ended ∧
          ended.state.ChoosesBy .random conflicts ∧
          ended.state.selector = (4, [(0, 3), (0, 2), (0, 1), (0, 1)])) ∧
      (SearchState.initial 0 : SearchState ComponentId Nat).runBy conflicts
          (Heuristic.random.pickFrom strict) .never () =
        (SearchState.initial 0).runBy conflicts (Heuristic.random.pickFrom source) .never () := by
  intro source strict conflicts initial
  have hne : conflicts ≠ [] := List.cons_ne_nil _ _
  have hanswers : source.Answers := fun low high n hlt =>
    ⟨_, _, rfl, Nat.le_add_right _ _, by have := Nat.mod_lt n (Nat.sub_pos_of_lt hlt); omega⟩
  have hsame : ∀ low high n, low < high →
      strict.sample low high n = source.sample low high n := fun _ _ _ hlt => if_pos hlt
  have hend : (initial.runBy conflicts (Heuristic.random.pickFrom source.recorded) .never ()).map
      (fun ended => ended.state.selector) = .ok (4, [(0, 3), (0, 2), (0, 1), (0, 1)]) := by
    decide +kernel
  obtain ⟨hplaces, hruns, hequal, _⟩ :=
    selectors_choose_as_promised (α := ComponentId) source StopRule.never ()
  obtain ⟨place, later, hpick, _, hchooses⟩ :=
    (hplaces conflicts hne).2 .random 5 fun _ => hanswers 0 3 5 (by decide)
  obtain ⟨ended, hrun, _, hordered, _⟩ := hruns hanswers .random conflicts 0
  have hplace : Heuristic.random.pickFrom source conflicts 5 = .ok (2, 6) := by decide +kernel
  have hsecond : ((2, 6) : Nat × Nat) = (place, later) := Except.ok.inj (hplace.symm.trans hpick)
  rw [hrun] at hend
  refine ⟨hne, hanswers, hsame, hplace, ?_, ⟨ended, hrun, hordered, Except.ok.inj hend⟩,
    hequal strict hsame .random conflicts 0⟩
  rw [show 2 = place from congrArg Prod.fst hsecond]
  exact hchooses

end CircuitDiagnosis
