import CircuitDiagnosis.HittingSet.BruteForce
import CircuitDiagnosis.Proofs.HittingSet.Walk
import CircuitDiagnosis.Proofs.OrdSet.Minimality
import CircuitDiagnosis.Proofs.OrdSet.Subsets

/-!
# Exactness of the search for hitting sets

The invariant of the walk is `SearchState.Accounts`: each recorded solution hits every conflict set,
and each minimal hitting set is recorded or lies above a pending path. A visit keeps it whatever
conflict set the selector picks, so a complete search has recorded every minimal hitting set, and
its result enumerates them (`enumerates_search_of_complete`). The test of all combinations
enumerates the same sets (`enumerates_bruteForce`).

`search_exact` joins both: a search that is never stopped is complete, exact, and agrees with the
test of all combinations.
-/

namespace CircuitDiagnosis

open Std

universe u

variable {α : Type u} [Ord α]

namespace OrdSet

/-- A hitting set without smaller hitting sets in it. -/
def IsMinimalHittingSet (conflicts : List (OrdSet α)) (s : OrdSet α) : Prop :=
  MinimalFor (fun t => t.Hits conflicts) s

theorem Hits.mono {conflicts : List (OrdSet α)} {s t : OrdSet α} (h : s.Hits conflicts)
    (hst : s ⊆ t) : t.Hits conflicts := by
  intro c hc
  obtain ⟨a, has, hac⟩ := h c hc
  exact ⟨a, hst a has, hac⟩

variable [TransOrd α] [LawfulEqOrd α]

theorem mem_extensions {s c t : OrdSet α} :
    t ∈ s.extensions c ↔ ∃ a, a ∈ c ∧ a ∉ s ∧ s.insert a = t := by
  unfold extensions
  simp only [List.mem_map, List.mem_filter, Bool.not_eq_true', ← Bool.not_eq_true, contains_iff,
    mem_toList, and_assoc]

/-- A hitting set above a path is above one of the extensions by a conflict set that the path does
not hit. -/
theorem exists_extension_subset {conflicts : List (OrdSet α)} {path c m : OrdSet α}
    (hc : c ∈ uncovered conflicts path) (hm : m.Hits conflicts) (hpath : path ⊆ m) :
    ∃ t ∈ path.extensions c, t ⊆ m := by
  obtain ⟨hmem, hdisjoint⟩ := mem_uncovered.mp hc
  obtain ⟨a, ham, hac⟩ := hm c hmem
  have hnot : a ∉ path := fun h => hdisjoint a h hac
  exact ⟨path.insert a, mem_extensions.mpr ⟨a, hac, hnot, rfl⟩, insert_subset ham hpath⟩

theorem isMinimalHittingSet_nil {s : OrdSet α} : IsMinimalHittingSet [] s ↔ s = ∅ := by
  constructor
  · intro h
    exact (h.eq_of_subset (fun c hc => by cases hc) (empty_subset s)).symm
  · rintro rfl
    exact ⟨fun c hc => (by cases hc), fun t _ _ => empty_subset t⟩

/-- A minimal hitting set has only elements of conflict sets. -/
theorem IsMinimalHittingSet.subset_union {conflicts : List (OrdSet α)} {m : OrdSet α}
    (h : IsMinimalHittingSet conflicts m) : m ⊆ union conflicts := by
  have hits : (m.filter (union conflicts).contains).Hits conflicts := by
    intro c hc
    obtain ⟨a, ham, hac⟩ := h.holds c hc
    have hunion : a ∈ union conflicts := mem_union.mpr ⟨c, hc, hac⟩
    exact ⟨a, mem_filter.mpr ⟨ham, contains_iff.mpr hunion⟩, hac⟩
  intro a ha
  have hfilter := h.minimal _ (filter_subset _ m) hits a ha
  exact contains_iff.mp (mem_filter.mp hfilter).2

omit [TransOrd α] [LawfulEqOrd α] in
theorem not_hits_of_empty_mem {conflicts : List (OrdSet α)} (h : ∅ ∈ conflicts) (s : OrdSet α) :
    ¬ s.Hits conflicts := by
  intro hs
  obtain ⟨a, _, ha⟩ := hs ∅ h
  exact not_mem_empty ha

omit [TransOrd α] [LawfulEqOrd α] in
/-- The empty family of sets enumerates a property that no set has. -/
theorem Enumerates.eq_nil {P : OrdSet α → Prop} {l : List (OrdSet α)} (h : Enumerates P l)
    (hP : ∀ s, ¬ P s) : l = [] :=
  List.eq_nil_iff_forall_not_mem.mpr fun s hs => hP s ((h.mem_iff s).mp hs)

omit [TransOrd α] [LawfulEqOrd α] in
theorem enumerates_singleton (s : OrdSet α) : Enumerates (· = s) [s] :=
  ⟨List.pairwise_singleton _ s, fun _ => List.mem_singleton⟩

end OrdSet

open OrdSet

section Search

variable [TransOrd α] [LawfulEqOrd α] {σ τ : Type}

/-! ### The invariant of the walk -/

/-- Nothing wrong is recorded and nothing minimal is lost. -/
structure SearchState.Accounts (conflicts : List (OrdSet α)) (st : SearchState α σ) : Prop where
  /-- Each solution hits every conflict set. -/
  sound : ∀ s ∈ st.solutions, s.Hits conflicts
  /-- Each minimal hitting set is a solution or lies above a path that is still pending. -/
  reaches : ∀ m, IsMinimalHittingSet conflicts m →
    m ∈ st.solutions ∨ ∃ p ∈ st.pending, p ⊆ m

omit [TransOrd α] [LawfulEqOrd α] in
theorem SearchState.accounts_initial (conflicts : List (OrdSet α)) (choices : σ) :
    (SearchState.initial choices).Accounts conflicts where
  sound s hs := absurd hs (Array.not_mem_empty s)
  reaches m _ := Or.inr ⟨∅, List.mem_cons_self, empty_subset m⟩

/-- What a visit records hits every conflict set. -/
theorem SearchState.sound_visit {conflicts : List (OrdSet α)} (selector : Selector α σ)
    (path : OrdSet α) (rest : List (OrdSet α)) {st : SearchState α σ}
    (h : ∀ s ∈ st.solutions, s.Hits conflicts) :
    ∀ s ∈ (st.visit conflicts selector path rest).solutions, s.Hits conflicts := by
  obtain ⟨v, _, _, ⟨_, hits, hv⟩ | ⟨_, _, hv⟩⟩ :=
    exists_visits_visit conflicts selector path rest st
  · rw [hv]
    intro s hs
    rcases Array.mem_push.mp hs with hs | rfl
    · exact h s hs
    · exact hits
  · rw [hv]
    exact h

/-- A visit keeps the account, whichever conflict set the selector picks. -/
theorem SearchState.Accounts.visit {conflicts : List (OrdSet α)} (selector : Selector α σ)
    {path : OrdSet α} {rest : List (OrdSet α)} {st : SearchState α σ}
    (hp : st.pending = path :: rest) (h : st.Accounts conflicts) :
    (st.visit conflicts selector path rest).Accounts conflicts := by
  refine ⟨sound_visit selector path rest h.sound, fun m hm => ?_⟩
  -- A minimal hitting set above a path other than the visited one stays above a pending path.
  have hkeep : m ∈ st.solutions ∨ path ⊆ m ∨ ∃ p ∈ rest, p ⊆ m := by
    rcases h.reaches m hm with hs | ⟨p, hmem, hpm⟩
    · exact Or.inl hs
    · rw [hp] at hmem
      rcases List.mem_cons.mp hmem with rfl | hmem
      · exact Or.inr (Or.inl hpm)
      · exact Or.inr (Or.inr ⟨p, hmem, hpm⟩)
  rcases visit_cases conflicts selector path rest st with
    ⟨hits, hv⟩ | ⟨_, ⟨s, hs, hsub⟩, hv⟩ | ⟨_, _, place, selected, _, hget, hv⟩
  · -- A minimal hitting set above the new solution is the new solution.
    rw [hv]
    rcases hkeep with hs | hpm | hrest
    · exact Or.inl (Array.mem_push.mpr (Or.inl hs))
    · have heq : path = m := MinimalFor.eq_of_subset hm hits hpm
      exact Or.inl (Array.mem_push.mpr (Or.inr heq.symm))
    · exact Or.inr hrest
  · -- A minimal hitting set above the pruned path is the solution within that path.
    rw [hv]
    rcases hkeep with hm' | hpm | hrest
    · exact Or.inl hm'
    · have heq : s = m := MinimalFor.eq_of_subset hm (h.sound s hs) (subset_trans hsub hpm)
      rw [heq] at hs
      exact Or.inl hs
    · exact Or.inr hrest
  · rw [hv]
    rcases hkeep with hm' | hpm | ⟨p, hmem, hpm⟩
    · exact Or.inl hm'
    · have hsel := List.mem_of_getElem? hget
      obtain ⟨t, ht, htm⟩ := exists_extension_subset hsel hm.holds hpm
      exact Or.inr ⟨t, List.mem_append_left rest ht, htm⟩
    · exact Or.inr ⟨p, List.mem_append_right _ hmem, hpm⟩

theorem SearchState.accounts_run (conflicts : List (OrdSet α)) (selector : Selector α σ)
    (rule : StopRule τ) (choices : σ) (stop : τ) :
    ((SearchState.initial choices).run conflicts selector rule stop).state.Accounts conflicts :=
  run_preserves conflicts selector rule (fun _ _ _ hp h => h.visit selector hp) stop
    (accounts_initial conflicts choices)

/-! ### The results -/

section Result

variable (conflicts : List (OrdSet α)) (selector : Selector α σ) (choices : σ)
  (rule : StopRule τ) (stop : τ)

theorem search_nil : search [] selector choices rule stop = .ofNoConflicts := rfl

theorem search_of_ne_nil (h : conflicts ≠ []) :
    search conflicts selector choices rule stop =
      .ofEnd ((SearchState.initial choices).run conflicts selector rule stop) 0 := by
  unfold search
  rw [if_neg (by rw [List.isEmpty_iff]; exact h)]

/-- A complete search enumerates the minimal hitting sets. -/
theorem enumerates_search_of_complete
    (h : (search conflicts selector choices rule stop).status = .complete) :
    Enumerates (IsMinimalHittingSet conflicts)
      (search conflicts selector choices rule stop).minimalHittingSets := by
  by_cases hnil : conflicts = []
  · subst hnil
    rw [search_nil]
    exact (enumerates_singleton ∅).congr fun s => isMinimalHittingSet_nil.symm
  · rw [search_of_ne_nil conflicts selector choices rule stop hnil] at h ⊢
    have hacc := SearchState.accounts_run conflicts selector rule choices stop
    have hpending := SearchState.pending_run_of_complete conflicts selector rule h
    refine enumerates_retainMinimal (fun s hs => hacc.sound s (Array.mem_toList_iff.mp hs))
      fun m hm => Array.mem_toList_iff.mpr ?_
    rcases hacc.reaches m hm with hs | ⟨p, hp, _⟩
    · exact hs
    · rw [hpending] at hp
      cases hp

theorem status_search_of_neverStops (h : rule.NeverStops stop) :
    (search conflicts selector choices rule stop).status = .complete := by
  by_cases hnil : conflicts = []
  · subst hnil
    rfl
  · rw [search_of_ne_nil conflicts selector choices rule stop hnil]
    exact SearchState.status_run_of_neverStops conflicts selector rule _ h

end Result

/-! ### All combinations -/

theorem mem_nonemptySubsets {s t : OrdSet α} : t ∈ s.nonemptySubsets ↔ t ≠ ∅ ∧ t ⊆ s :=
  mem_subsets_iff

/-- The test of all combinations enumerates the minimal hitting sets. -/
theorem enumerates_bruteForce (conflicts : List (OrdSet α)) :
    Enumerates (IsMinimalHittingSet conflicts) (bruteForce conflicts).minimalHittingSets := by
  unfold bruteForce
  split
  · next hnil =>
    rw [List.isEmpty_iff.mp hnil]
    exact (enumerates_singleton ∅).congr fun s => isMinimalHittingSet_nil.symm
  · next hnil =>
    refine enumerates_retainMinimal (fun s hs => hitsAll_iff.mp (List.mem_filter.mp hs).2)
      fun m hm => ?_
    refine List.mem_filter.mpr ⟨mem_nonemptySubsets.mpr ⟨?_, IsMinimalHittingSet.subset_union hm⟩,
      hitsAll_iff.mpr hm.holds⟩
    -- There is a conflict set, and the empty set does not hit it.
    rintro rfl
    obtain ⟨c, hc⟩ := List.exists_mem_of_ne_nil conflicts fun h => hnil (List.isEmpty_iff.mpr h)
    obtain ⟨a, ha, _⟩ := hm.holds c hc
    exact not_mem_empty ha

/-! ### Both engines -/

/-- **The search is exact**: if it is never stopped then it is complete, and whichever conflict sets
the selector picks it lists all minimal hitting sets, as the test of all combinations does. -/
theorem search_exact (conflicts : List (OrdSet α)) (selector : Selector α σ) (choices : σ)
    (rule : StopRule τ) (stop : τ) (h : rule.NeverStops stop) :
    (search conflicts selector choices rule stop).status = .complete ∧
      Enumerates (IsMinimalHittingSet conflicts)
        (search conflicts selector choices rule stop).minimalHittingSets ∧
      (bruteForce conflicts).minimalHittingSets =
        (search conflicts selector choices rule stop).minimalHittingSets ∧
      (conflicts = [] → (bruteForce conflicts).minimalHittingSets = [∅]) ∧
      (∅ ∈ conflicts → (bruteForce conflicts).minimalHittingSets = []) := by
  have hstatus := status_search_of_neverStops conflicts selector choices rule stop h
  have hsearch := enumerates_search_of_complete conflicts selector choices rule stop hstatus
  have hbrute := enumerates_bruteForce conflicts
  refine ⟨hstatus, hsearch, hbrute.unique hsearch, ?_, fun hempty => ?_⟩
  · rintro rfl
    rfl
  · exact hbrute.eq_nil fun s hs => not_hits_of_empty_mem hempty s hs.holds

/-- Of the conflict sets with `A`, `B` and with `A`, `C`, the heuristic of the most frequent element
finds `A` alone and `B` with `C`. -/
theorem search_exact_two_conflicts :
    (StopRule.timed frozenClock).NeverStops ⟨.absent, 0⟩ ∧
      (search [.ofList ["A", "B"], .ofList ["A", "C"]] Heuristic.mostFrequent.selector
        (Generator.ofSeed 7) (StopRule.timed frozenClock) ⟨.absent, 0⟩).minimalHittingSets =
          [.ofList ["A"], .ofList ["B", "C"]] := by
  have hnever := StopRule.neverStops_timed frozenClock 0 (Or.inr rfl : StopCondition.absent = _ ∨ _)
  obtain ⟨_, _, hbrute, _, _⟩ := search_exact [.ofList ["A", "B"], .ofList ["A", "C"]]
    Heuristic.mostFrequent.selector (Generator.ofSeed 7) (StopRule.timed frozenClock)
    ⟨.absent, 0⟩ hnever
  refine ⟨hnever, hbrute.symm.trans ?_⟩
  decide

end Search

end CircuitDiagnosis
