import CircuitDiagnosis.HittingSet.Heuristic
import CircuitDiagnosis.OrdSet.Basic
import CircuitDiagnosis.Random.Generator

/-!
# Selectors

A selector picks one of the conflict sets that a path does not hit yet, by its place in their list.
It may keep a state from one choice to the next. A search only takes selectors that answer a
non-empty list with a place in it; the rules of the heuristics are such (`smallestIndex_lt`,
`mostFrequentIndex_lt`, `Generator.below_lt`).
-/

namespace CircuitDiagnosis

open Std

universe u

/-- A rule that picks a place in every non-empty list of sets. -/
structure Selector (α : Type u) [Ord α] (σ : Type) where
  select : List (OrdSet α) → σ → Nat × σ
  select_lt : ∀ sets state, sets ≠ [] → (select sets state).1 < sets.length

section Rules

variable {α : Type u} [Ord α]

/-- The place of the first set that is no larger than any other. -/
def smallestIndex (sets : List (OrdSet α)) : Nat :=
  sets.findIdx fun s => sets.all fun t => s.size ≤ t.size

/-- The number of sets with an element. -/
def frequency (sets : List (OrdSet α)) (a : α) : Nat := sets.countP fun s => s.contains a

/-- The least of the elements that occur in most sets. -/
def mostFrequent? [TransOrd α] (sets : List (OrdSet α)) : Option α :=
  (OrdSet.ofList (sets.flatMap OrdSet.toList)).toList.maxOn? (frequency sets)

/-- The place of the first set with the most frequent element; the first place of all if no set
has an element. -/
def mostFrequentIndex [TransOrd α] (sets : List (OrdSet α)) : Nat :=
  match mostFrequent? sets with
  | some a => sets.findIdx fun s => s.contains a
  | none => 0

/-- A place drawn from a source of random numbers. -/
def randomIndex {ρ : Type} (source : RandomSource ρ) (sets : List (OrdSet α)) (state : ρ) :
    Except EmptyRange (Nat × ρ) :=
  source.sample 0 sets.length state

theorem exists_size_le {sets : List (OrdSet α)} (h : sets ≠ []) :
    ∃ s ∈ sets, ∀ t ∈ sets, s.size ≤ t.size := by
  induction sets with
  | nil => exact absurd rfl h
  | cons a rest ih =>
    by_cases hr : rest = []
    · exact ⟨a, by simp, by simp [hr]⟩
    · obtain ⟨s, hs, hle⟩ := ih hr
      by_cases hsa : s.size ≤ a.size
      · exact ⟨s, List.mem_cons_of_mem _ hs, by simpa using ⟨hsa, hle⟩⟩
      · refine ⟨a, by simp, ?_⟩
        simp only [List.mem_cons, forall_eq_or_imp, Nat.le_refl, true_and]
        exact fun t ht => Nat.le_trans (by omega) (hle t ht)

theorem smallestIndex_lt {sets : List (OrdSet α)} (h : sets ≠ []) :
    smallestIndex sets < sets.length := by
  obtain ⟨s, hs, hle⟩ := exists_size_le h
  exact List.findIdx_lt_length_of_exists ⟨s, hs, by simpa using hle⟩

theorem mostFrequentIndex_lt [TransOrd α] [LawfulEqOrd α] {sets : List (OrdSet α)}
    (h : sets ≠ []) : mostFrequentIndex sets < sets.length := by
  unfold mostFrequentIndex
  split
  · next a ha =>
    have ha : a ∈ OrdSet.ofList (sets.flatMap OrdSet.toList) := List.maxOn?_mem ha
    obtain ⟨s, hs, has⟩ := List.mem_flatMap.1 (OrdSet.mem_ofList.1 ha)
    exact List.findIdx_lt_length_of_exists ⟨s, hs, OrdSet.contains_iff.2 has⟩
  · exact List.length_pos_iff.2 h

end Rules

namespace Heuristic

variable {α : Type u} [Ord α] [TransOrd α]

/-- The place that a heuristic picks, with the generator afterwards. Only the random rule refuses
the empty list. -/
def pick (sets : List (OrdSet α)) (g : Generator) : Heuristic → Except EmptyRange (Nat × Generator)
  | .smallest => .ok (smallestIndex sets, g)
  | .mostFrequent => .ok (mostFrequentIndex sets, g)
  | .random => randomIndex Generator.source sets g

/-- The place that a heuristic picks in a non-empty list. -/
def choose (h : Heuristic) (sets : List (OrdSet α)) (g : Generator) : Nat × Generator :=
  match h.pick sets g with
  | .ok choice => choice
  | .error _ => (0, g)

theorem choose_lt [LawfulEqOrd α] (h : Heuristic) {sets : List (OrdSet α)} (g : Generator)
    (hne : sets ≠ []) : (h.choose sets g).1 < sets.length := by
  have hpos : 0 < sets.length := List.length_pos_iff.2 hne
  cases h with
  | smallest => exact smallestIndex_lt hne
  | mostFrequent => exact mostFrequentIndex_lt hne
  | random =>
    simp only [choose, pick, randomIndex, Generator.source, hpos, if_true]
    simpa [Generator.inRange] using Generator.below_lt hpos g

/-- The selector of a heuristic; its state is the random generator. -/
def selector [LawfulEqOrd α] (h : Heuristic) : Selector α Generator where
  select := h.choose
  select_lt _ g hne := h.choose_lt g hne

end Heuristic

/-- How a search picks conflict sets: the heuristic and the seed of its random choices. -/
structure SearchOptions where
  heuristic : Heuristic := .smallest
  seed : Option UInt64 := none
  deriving DecidableEq, Repr, Inhabited

/-- The generator with which a search starts: the one of the seed, else the one given. -/
def SearchOptions.generator (options : SearchOptions) (unseeded : Generator) : Generator :=
  match options.seed with
  | some seed => .ofSeed seed
  | none => unseeded

end CircuitDiagnosis
