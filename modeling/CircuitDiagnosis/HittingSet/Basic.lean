import CircuitDiagnosis.OrdSet.Basic

/-!
# Hitting sets

A set hits a family of conflict sets when it shares an element with each of them. `uncovered` lists
the conflict sets that a set does not hit yet: a larger set leaves no more of them, and a set that
takes in an element of one of them leaves fewer (`length_uncovered_insert_lt`).
-/

namespace CircuitDiagnosis

open Std

universe u

variable {α : Type u} [Ord α]

namespace OrdSet

/-- Whether the set shares an element with every conflict set. -/
def hitsAll (s : OrdSet α) (conflicts : List (OrdSet α)) : Bool := conflicts.all s.intersects

/-- The conflict sets that the set does not hit, in their given order. -/
def uncovered (conflicts : List (OrdSet α)) (s : OrdSet α) : List (OrdSet α) :=
  conflicts.filter fun c => !s.intersects c

/-- The set shares an element with every conflict set. -/
def Hits (s : OrdSet α) (conflicts : List (OrdSet α)) : Prop := ∀ c ∈ conflicts, ∃ a, a ∈ s ∧ a ∈ c

/-- The sets that take in one element of the conflict set `c`, in the order of these elements. -/
def extensions [TransOrd α] (s c : OrdSet α) : List (OrdSet α) :=
  (c.toList.filter fun a => !s.contains a).map fun a => s.insert a

section Lawful

variable [TransOrd α] [LawfulEqOrd α]

omit [TransOrd α] in
theorem hitsAll_iff {s : OrdSet α} {conflicts : List (OrdSet α)} :
    s.hitsAll conflicts = true ↔ s.Hits conflicts := by
  simp [hitsAll, Hits, intersects_iff]

omit [TransOrd α] in
theorem mem_uncovered {conflicts : List (OrdSet α)} {s c : OrdSet α} :
    c ∈ uncovered conflicts s ↔ c ∈ conflicts ∧ ∀ a, a ∈ s → a ∉ c := by
  simp [uncovered, ← Bool.not_eq_true, intersects_iff]

omit [TransOrd α] in
theorem uncovered_eq_nil_iff {conflicts : List (OrdSet α)} {s : OrdSet α} :
    uncovered conflicts s = [] ↔ s.Hits conflicts := by
  simp [uncovered, Hits, intersects_iff]

theorem intersects_insert {s c : OrdSet α} {a : α} (h : s.intersects c = true) :
    (s.insert a).intersects c = true := by
  obtain ⟨b, hs, hc⟩ := intersects_iff.1 h
  exact intersects_iff.2 ⟨b, mem_insert.2 (.inr hs), hc⟩

/-- Taking in an element leaves no more conflict sets uncovered. -/
theorem length_uncovered_insert_le (conflicts : List (OrdSet α)) (s : OrdSet α) (a : α) :
    (uncovered conflicts (s.insert a)).length ≤ (uncovered conflicts s).length := by
  induction conflicts with
  | nil => simp [uncovered]
  | cons c rest ih =>
    simp only [uncovered] at ih ⊢
    cases hs : s.intersects c with
    | true => simp only [List.filter_cons, hs, intersects_insert hs]; simpa using ih
    | false =>
      simp only [List.filter_cons, hs, Bool.not_false, if_true, List.length_cons]
      split
      · simp only [List.length_cons]; omega
      · omega

/-- Taking in an element of an uncovered conflict set leaves fewer of them. -/
theorem length_uncovered_insert_lt {conflicts : List (OrdSet α)} {s c : OrdSet α} {a : α}
    (hc : c ∈ uncovered conflicts s) (ha : a ∈ c) :
    (uncovered conflicts (s.insert a)).length < (uncovered conflicts s).length := by
  induction conflicts with
  | nil => simp [uncovered] at hc
  | cons d rest ih =>
    have hle := length_uncovered_insert_le rest s a
    simp only [uncovered] at ih hle hc ⊢
    by_cases hd : s.intersects d = true
    · simp only [List.filter_cons, hd, intersects_insert hd] at hc ⊢
      exact ih hc
    · simp only [List.filter_cons, hd, Bool.not_false, if_true, List.length_cons] at hc ⊢
      rcases List.mem_cons.1 hc with rfl | hc
      · have : (s.insert a).intersects c = true :=
          intersects_iff.2 ⟨a, mem_insert.2 (.inl rfl), ha⟩
        simp only [this, Bool.not_true, Bool.false_eq_true, if_false]
        omega
      · have ih := ih hc
        split
        · simp only [List.length_cons]; omega
        · omega

omit [LawfulEqOrd α] in
theorem length_extensions_le (s c : OrdSet α) : (s.extensions c).length ≤ c.size := by
  simp only [extensions, List.length_map]
  exact List.length_filter_le _ _

theorem length_uncovered_extension_lt {conflicts : List (OrdSet α)} {s c t : OrdSet α}
    (hc : c ∈ uncovered conflicts s) (ht : t ∈ s.extensions c) :
    (uncovered conflicts t).length < (uncovered conflicts s).length := by
  obtain ⟨a, ha, rfl⟩ := List.mem_map.1 ht
  exact length_uncovered_insert_lt hc (List.mem_filter.1 ha).1

end Lawful

end OrdSet

end CircuitDiagnosis
