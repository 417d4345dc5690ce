import CircuitDiagnosis.OrdSet.Basic

/-!
# Minimal members of a family of sets

A family is a list of sets in any order, repeats allowed.

* `deduplicate` lists its sets once each, by size and then lexicographically.
* `retainMinimal` keeps the sets of that list that contain no other set of the family.
* `isMinimal` tests whether no set of a family, seen at two places of the list, lies within
  another.

`MinimalFor` says of one set that it has a property and that no proper subset has it.
-/

namespace CircuitDiagnosis.OrdSet

open Std

universe u

variable {α : Type u} [Ord α]

/-- The set has the property, and none of its proper subsets has it. -/
structure MinimalFor (P : OrdSet α → Prop) (s : OrdSet α) : Prop where
  holds : P s
  minimal : ∀ t : OrdSet α, t ⊆ s → P t → s ⊆ t

/-- The sets of a family once each, ordered by size and then lexicographically. -/
def deduplicate [TransOrd α] (sets : List (OrdSet α)) : List (OrdSet α) :=
  (ofList sets).toList

/-- Whether some set of `kept` is smaller than `s` and lies within it. -/
def dominated (kept : List (OrdSet α)) (s : OrdSet α) : Bool :=
  kept.any fun t => t.size < s.size && t.subset s

/-- Passes once over sets of increasing size and keeps those that contain none kept before.
A strict subset is smaller, so it comes earlier, and what it was dropped for lies within it. -/
def retainUndominated (kept : List (OrdSet α)) : List (OrdSet α) → List (OrdSet α)
  | [] => []
  | s :: rest =>
    if dominated kept s then retainUndominated kept rest
    else s :: retainUndominated (s :: kept) rest

/-- The sets of a family that contain no other set of it, once each, ordered by size and then
lexicographically. -/
def retainMinimal [TransOrd α] (sets : List (OrdSet α)) : List (OrdSet α) :=
  retainUndominated [] (deduplicate sets)

/-- Whether no set of the family lies within another one; a set that is listed twice does. Each set is
held against the later ones in both directions, so each ordered pair of different places is compared
once. -/
def isMinimal : List (OrdSet α) → Bool
  | [] => true
  | s :: rest => rest.all (fun t => !s.subset t && !t.subset s) && isMinimal rest

theorem mem_deduplicate [TransOrd α] [LawfulEqOrd α] {s : OrdSet α} {sets : List (OrdSet α)} :
    s ∈ deduplicate sets ↔ s ∈ sets :=
  mem_ofList

theorem pairwise_deduplicate [TransOrd α] (sets : List (OrdSet α)) :
    (deduplicate sets).Pairwise fun s t => compare s t = .lt :=
  (ofList sets).increasing

theorem retainUndominated_sublist (kept sets : List (OrdSet α)) :
    (retainUndominated kept sets).Sublist sets := by
  induction sets generalizing kept with
  | nil => simp [retainUndominated]
  | cons s rest ih =>
    simp only [retainUndominated]
    split
    · exact (ih kept).cons s
    · exact (ih (s :: kept)).cons_cons s

theorem retainMinimal_sublist [TransOrd α] (sets : List (OrdSet α)) :
    (retainMinimal sets).Sublist (deduplicate sets) :=
  retainUndominated_sublist [] _

end CircuitDiagnosis.OrdSet
