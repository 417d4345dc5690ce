import CircuitDiagnosis.HittingSet.Diagnosis
import CircuitDiagnosis.Proofs.HittingSet.Exactness
import CircuitDiagnosis.Proofs.HittingSet.Trace

/-!
# Searches with a budget

A search under a stop condition makes the first visits of the search that is never stopped, as many
as the limit of the condition allows (`search_upTo`). What a search reports depends on its visits
only (`enumerates_hittingSets_search`), so with a higher limit it reports more, and with a limit
that all visits keep within it reports the same as without one.

`search_stops_at_limit` says so of the searches of the heuristics. Two of them go along the same
states if they draw no random numbers or draw them with one seed (`SearchOptions.after_generator`).
-/

namespace CircuitDiagnosis

open Std (TransOrd LawfulEqOrd)
open OrdSet

universe u

variable {α : Type u} [Ord α]

/-! ### The first visits of a search -/

/-- A search makes the first visits of another one, as many as a limit allows, and it is complete
exactly if the limit allows all of them. -/
structure SearchResult.UpTo (part whole : SearchResult α) (limit : ℕ∞) : Prop where
  visits : part.visits = whole.visits.take part.statistics.nodesVisited
  nodesVisited : (part.statistics.nodesVisited : ℕ∞) = min limit whole.statistics.nodesVisited
  complete_iff : part.status = .complete ↔ (whole.statistics.nodesVisited : ℕ∞) ≤ limit

namespace SearchResult.UpTo

variable {part part' whole : SearchResult α} {limit limit' : ℕ∞}

theorem visits_subset_whole (h : part.UpTo whole limit) : part.visits ⊆ whole.visits := by
  rw [h.visits]
  exact List.take_subset _ _

theorem visits_subset (h : part.UpTo whole limit) (h' : part'.UpTo whole limit')
    (hle : limit ≤ limit') : part.visits ⊆ part'.visits := by
  have hfewer : (part.statistics.nodesVisited : ℕ∞) ≤ part'.statistics.nodesVisited := by
    rw [h.nodesVisited, h'.nodesVisited]
    exact min_le_min_right _ hle
  rw [h.visits, h'.visits]
  exact (List.take_prefix_take_left (Nat.cast_le.mp hfewer)).subset

theorem visits_eq (h : part.UpTo whole limit)
    (hwhole : whole.visits.length = whole.statistics.nodesVisited)
    (hle : (whole.statistics.nodesVisited : ℕ∞) ≤ limit) : part.visits = whole.visits := by
  have hall : (part.statistics.nodesVisited : ℕ∞) = whole.statistics.nodesVisited := by
    rw [h.nodesVisited, min_eq_right hle]
  rw [h.visits, Nat.cast_inj.mp hall, ← hwhole, List.take_length]

end SearchResult.UpTo

section Search

variable [TransOrd α] [LawfulEqOrd α] {σ τ τ' : Type} (conflicts : List (OrdSet α))
  (selector : Selector α σ) (choices : σ) (rule : StopRule τ) (stop : τ)

theorem length_visits_search :
    (search conflicts selector choices rule stop).visits.length =
      (search conflicts selector choices rule stop).statistics.nodesVisited := by
  by_cases hnil : conflicts = []
  · subst hnil
    rfl
  · rw [search_of_ne_nil conflicts selector choices rule stop hnil]
    rfl

/-- If there are conflict sets, a search reports the visited paths that hit every one of them. -/
theorem enumerates_hittingSets_search (hne : conflicts ≠ []) :
    Enumerates (fun s => s.Hits conflicts ∧
        ∃ v ∈ (search conflicts selector choices rule stop).visits, v.path = s)
      (search conflicts selector choices rule stop).hittingSets := by
  rw [search_of_ne_nil conflicts selector choices rule stop hne]
  refine ⟨(pairwise_deduplicate _).imp fun h => compare_eq_lt_iff.mp h, fun s => ?_⟩
  have hvisited :=
    SearchState.mem_solutions_run_iff conflicts selector rule choices stop (s := s)
  simp only [← Array.mem_toList_iff] at hvisited
  exact mem_deduplicate.trans hvisited

/-- The minimal sets that a search reports are the minimal ones of those it reports. -/
theorem minimalHittingSets_search :
    (search conflicts selector choices rule stop).minimalHittingSets =
      retainMinimal (search conflicts selector choices rule stop).hittingSets := by
  by_cases hnil : conflicts = []
  · subst hnil
    rfl
  · rw [search_of_ne_nil conflicts selector choices rule stop hnil]
    refine (enumerates_minimal_members _).unique ((enumerates_minimal_members _).congr fun s => ?_)
    simp only [SearchResult.ofEnd, mem_deduplicate]

/-- A search goes along the states of the walk from the root and reports the visits made. -/
theorem exists_endsAfter_search (hne : conflicts ≠ []) :
    ∃ n, (search conflicts selector choices rule stop).statistics.nodesVisited = n ∧
      (search conflicts selector choices rule stop).visits =
        ((SearchState.initial choices).after conflicts selector n).visits.toList ∧
      SearchState.EndsAfter conflicts selector rule (.initial choices) stop n
        (search conflicts selector choices rule stop).status := by
  rw [← length_visits_search, search_of_ne_nil conflicts selector choices rule stop hne]
  obtain ⟨n, hn, hends⟩ :=
    SearchState.exists_endsAfter_run conflicts selector rule (.initial choices) stop
  have hvisits : (SearchResult.ofEnd
      ((SearchState.initial choices).run conflicts selector rule stop) 0).visits =
        ((SearchState.initial choices).after conflicts selector n).visits.toList :=
    congrArg (fun st => st.visits.toList) hn
  refine ⟨n, ?_, hvisits, hends⟩
  rw [hvisits, Array.length_toList, hends.size_visits]
  exact Nat.zero_add n

variable (choices' : σ) (rule' : StopRule τ') (stop' : τ')

/-- A search that makes all the visits of another one reports all its sets. -/
theorem hittingSets_search_subset
    (h : (search conflicts selector choices rule stop).visits ⊆
      (search conflicts selector choices' rule' stop').visits) :
    (search conflicts selector choices rule stop).hittingSets ⊆
      (search conflicts selector choices' rule' stop').hittingSets := by
  by_cases hnil : conflicts = []
  · subst hnil
    exact List.Subset.refl _
  · intro s hs
    have hpart := enumerates_hittingSets_search conflicts selector choices rule stop hnil
    have hwhole := enumerates_hittingSets_search conflicts selector choices' rule' stop' hnil
    obtain ⟨hits, v, hv, hpath⟩ := (hpart.mem_iff s).mp hs
    exact (hwhole.mem_iff s).mpr ⟨hits, v, h hv, hpath⟩

/-- A reported set is minimal among all that a search reports if it is minimal among all that a
search with the same visits and more reports. -/
theorem mem_minimalHittingSets_search
    (h : (search conflicts selector choices rule stop).visits ⊆
      (search conflicts selector choices' rule' stop').visits) {s : OrdSet α}
    (hs : s ∈ (search conflicts selector choices' rule' stop').minimalHittingSets)
    (hreported : s ∈ (search conflicts selector choices rule stop).hittingSets) :
    s ∈ (search conflicts selector choices rule stop).minimalHittingSets := by
  rw [minimalHittingSets_search, mem_retainMinimal_iff] at hs ⊢
  have hsubset :=
    hittingSets_search_subset conflicts selector choices rule stop choices' rule' stop' h
  exact ⟨hreported, fun t hts ht => hs.minimal t hts (hsubset ht)⟩

/-- Two searches with the same visits report the same sets and the same minimal ones. -/
theorem hittingSets_search_congr
    (h : (search conflicts selector choices rule stop).visits =
      (search conflicts selector choices' rule' stop').visits) :
    (search conflicts selector choices rule stop).hittingSets =
        (search conflicts selector choices' rule' stop').hittingSets ∧
      (search conflicts selector choices rule stop).minimalHittingSets =
        (search conflicts selector choices' rule' stop').minimalHittingSets := by
  have hsets : (search conflicts selector choices rule stop).hittingSets =
      (search conflicts selector choices' rule' stop').hittingSets := by
    by_cases hnil : conflicts = []
    · subst hnil
      rfl
    · refine (enumerates_hittingSets_search conflicts selector choices rule stop hnil).unique ?_
      rw [h]
      exact enumerates_hittingSets_search conflicts selector choices' rule' stop' hnil
  refine ⟨hsets, ?_⟩
  rw [minimalHittingSets_search, minimalHittingSets_search, hsets]

/-- A search with a limit makes the first visits of a search that is never stopped, if the states
of both walks differ in nothing but the selector. -/
theorem search_upTo {limit : ℕ∞} (hlimit : rule.StopsAt stop limit)
    (hnever : rule'.NeverStops stop')
    (hsame : ∀ n, ∃ state, (SearchState.initial choices').after conflicts selector n =
      { (SearchState.initial choices).after conflicts selector n with selector := state }) :
    (search conflicts selector choices rule stop).UpTo
      (search conflicts selector choices' rule' stop') limit := by
  by_cases hnil : conflicts = []
  · subst hnil
    exact ⟨rfl, (min_eq_right zero_le).symm, fun _ => zero_le, fun _ => rfl⟩
  obtain ⟨n, hn, hvisits, hends⟩ :=
    exists_endsAfter_search conflicts selector choices rule stop hnil
  obtain ⟨total, htotal, hvisits', hall⟩ :=
    exists_endsAfter_search conflicts selector choices' rule' stop' hnil
  rw [status_search_of_neverStops conflicts selector choices' rule' stop' hnever] at hall
  -- The walk from `choices` comes to its end after as many visits as the one from `choices'`.
  have hall' : SearchState.EndsAfter conflicts selector rule' (.initial choices) stop' total
      .complete := by
    refine hall.congr fun k => ?_
    obtain ⟨state, hk⟩ := hsame k
    rw [hk]
  obtain ⟨hmin, hcomplete⟩ := hends.eq_min hlimit hall'
  have hle : n ≤ total := Nat.cast_le.mp (hmin.le.trans (min_le_right _ _))
  refine ⟨?_, ?_, ?_⟩
  · have hprefix := SearchState.visits_after_prefix conflicts selector (.initial choices) hle
    obtain ⟨state, hstate⟩ := hsame total
    rw [← length_visits_search, hvisits, hvisits', hstate]
    exact List.prefix_iff_eq_take.mp hprefix
  · rw [hn, htotal]
    exact hmin
  · rw [htotal]
    exact hcomplete

end Search

/-! ### The searches of the heuristics -/

/-- A heuristic without random choices leaves the generator alone and does not look at it. -/
theorem Heuristic.choose_of_ne_random [TransOrd α] {h : Heuristic} (hne : h ≠ .random)
    (sets : List (OrdSet α)) (g g' : Generator) : h.choose sets g = ((h.choose sets g').1, g) := by
  cases h with
  | smallest => rfl
  | mostFrequent => rfl
  | random => exact absurd rfl hne

/-- Without random choices, or with a seed for them, the generator given makes no difference to the
walk. -/
theorem SearchOptions.after_generator (options : SearchOptions)
    (hseed : options.heuristic = .random → options.seed.isSome = true)
    (unseeded unseeded' : Generator) (conflicts : List ComponentSet) (n : ℕ) :
    ∃ state, (SearchState.initial (options.generator unseeded')).after conflicts
        options.heuristic.selector n =
      { (SearchState.initial (options.generator unseeded)).after conflicts
          options.heuristic.selector n with selector := state } := by
  cases hs : options.seed with
  | some seed =>
      have hgenerator : options.generator unseeded' = options.generator unseeded := by
        unfold generator
        rw [hs]
      rw [hgenerator]
      exact ⟨_, rfl⟩
  | none =>
      have hne : options.heuristic ≠ .random := by
        intro hrandom
        have hsome := hseed hrandom
        rw [hs] at hsome
        cases hsome
      exact ⟨_, SearchState.after_selector (fun sets => Heuristic.choose_of_ne_random hne sets)
        (.initial (options.generator unseeded)) (options.generator unseeded') n⟩

/-- A search under a condition whose time suffices makes the first visits of the search that is
never stopped. -/
theorem SearchOptions.search_upTo (options : SearchOptions)
    (hseed : options.heuristic = .random → options.seed.isSome = true)
    (unseeded unseeded' : Generator) {clock : Nat → Nat} (clock' : Nat → Nat)
    {condition : StopCondition} (htime : condition.TimeSuffices clock)
    (conflicts : List ComponentSet) :
    (options.search unseeded clock condition conflicts).UpTo
      (options.search unseeded' clock' .indefinite conflicts) condition.limit :=
  CircuitDiagnosis.search_upTo conflicts options.heuristic.selector _ _ _ _ _ _
    (StopRule.stopsAt_timed htime) (StopRule.neverStops_timed clock' 0 (Or.inl rfl))
    (options.after_generator hseed unseeded unseeded' conflicts)

/-- **A limited search is the beginning of the unlimited one.** Let a heuristic make no random
choices or make them with a seed, and let every budget of time in a condition suffice or be of no
time, so that the condition has a limit. Then a search under the condition visits the first paths
that the search without limit visits, as many as the limit allows; it is complete exactly if these
are all; and it reports those of them that hit every conflict set. Without conflict sets nothing is
visited and the empty set is reported.

So a search reports no less with a higher limit, and the same as without one as soon as the limit
allows all visits. A set that it reports and that is minimal among all there are is minimal among
those it reports. -/
theorem search_stops_at_limit (options : SearchOptions)
    (hseed : options.heuristic = .random → options.seed.isSome = true)
    (unseeded unseeded' : Generator) (clock clock' : Nat → Nat) (condition : StopCondition)
    (htime : condition.TimeSuffices clock) (conflicts : List ComponentSet) :
    let unlimited := options.search unseeded' clock' .indefinite conflicts
    let limited := options.search unseeded clock condition conflicts
    limited.UpTo unlimited condition.limit ∧
      (conflicts ≠ [] → Enumerates (fun s => s.Hits conflicts ∧ ∃ v ∈ limited.visits, v.path = s)
        limited.hittingSets) ∧
      (conflicts = [] → unlimited.statistics.nodesVisited = 0 ∧ limited.hittingSets = [∅] ∧
        limited.minimalHittingSets = [∅] ∧ limited.status = .complete) ∧
      (∀ unseeded'' clock'' condition'', condition''.TimeSuffices clock'' →
        condition.limit ≤ condition''.limit →
          limited.hittingSets ⊆
            (options.search unseeded'' clock'' condition'' conflicts).hittingSets) ∧
      ((unlimited.statistics.nodesVisited : ℕ∞) ≤ condition.limit →
        limited.hittingSets = unlimited.hittingSets ∧
          limited.minimalHittingSets = unlimited.minimalHittingSets) ∧
      ∀ s ∈ unlimited.minimalHittingSets, s ∈ limited.hittingSets →
        s ∈ limited.minimalHittingSets := by
  intro unlimited limited
  have hupTo : limited.UpTo unlimited condition.limit :=
    options.search_upTo hseed unseeded unseeded' clock' htime conflicts
  refine ⟨hupTo, enumerates_hittingSets_search conflicts _ _ _ _, ?_, ?_, fun hle => ?_, ?_⟩
  · rintro rfl
    exact ⟨rfl, rfl, rfl, rfl⟩
  · intro unseeded'' clock'' condition'' htime'' hle
    have hupTo'' := options.search_upTo hseed unseeded'' unseeded' clock' htime'' conflicts
    exact hittingSets_search_subset conflicts _ _ _ _ _ _ _ (hupTo.visits_subset hupTo'' hle)
  · have hvisits := hupTo.visits_eq (length_visits_search conflicts _ _ _ _) hle
    exact hittingSets_search_congr conflicts _ _ _ _ _ _ _ hvisits
  · intro s hs hreported
    exact mem_minimalHittingSets_search conflicts _ _ _ _ _ _ _ hupTo.visits_subset_whole hs
      hreported

/-- Of the seven paths over three conflict sets, a nested condition with a budget of three paths
lets three be visited; the last one is a minimal hitting set. -/
theorem search_stops_at_limit_three_paths :
    let options : SearchOptions := {}
    let condition : StopCondition :=
      .either (.either .absent (.timeBudget 60)) (.given (.either (.nodes 3) (.nodes 8)))
    let conflicts : List ComponentSet :=
      [.ofList ["A", "B"], .ofList ["B", "C"], .ofList ["A", "C"]]
    let limited := options.search (.ofSeed 1) frozenClock condition conflicts
    (options.heuristic = .random → options.seed.isSome = true) ∧
      condition.TimeSuffices frozenClock ∧ condition.limit = 3 ∧
      limited.statistics.nodesVisited = 3 ∧ limited.status ≠ .complete ∧
      OrdSet.ofList ["A", "B"] ∈ limited.minimalHittingSets := by
  intro options condition conflicts limited
  have hseed : options.heuristic = .random → options.seed.isSome = true := fun h => (by cases h)
  have htime : condition.TimeSuffices frozenClock :=
    ⟨⟨trivial, Or.inr fun _ => Nat.zero_lt_succ 59⟩, trivial, trivial⟩
  have hlimit : condition.limit = 3 := rfl
  obtain ⟨hupTo, _, _, _, _, hminimal⟩ := search_stops_at_limit options hseed (.ofSeed 1)
    (.ofSeed 2) frozenClock (fun n => n) condition htime conflicts
  have hall : (options.search (.ofSeed 2) (fun n => n) .indefinite
      conflicts).statistics.nodesVisited = 7 := by
    decide +kernel
  have hvisited : (limited.statistics.nodesVisited : ℕ∞) = (3 : ℕ) := by
    rw [hupTo.nodesVisited, hall, hlimit]
    rfl
  refine ⟨hseed, htime, hlimit, Nat.cast_inj.mp hvisited, fun hcomplete => ?_, ?_⟩
  · have hle := hupTo.complete_iff.mp hcomplete
    rw [hall, hlimit] at hle
    exact absurd (Nat.cast_le.mp hle) (by decide)
  · refine hminimal _ ?_ ?_
    · decide +kernel
    · decide +kernel

end CircuitDiagnosis
