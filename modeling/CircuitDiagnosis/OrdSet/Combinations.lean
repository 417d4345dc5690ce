import CircuitDiagnosis.OrdSet.Basic

/-!
# Combinations

The combinations of a list of `k` of its elements, in the lexicographic order of the places that
the elements have in the list.
-/

namespace CircuitDiagnosis

universe u

/-- The ways to pick `k` elements of a list, each in the order of the list. -/
def combinations {α : Type u} : Nat → List α → List (List α)
  | 0, _ => [[]]
  | _ + 1, [] => []
  | k + 1, a :: rest => (combinations k rest).map (a :: ·) ++ combinations (k + 1) rest

theorem sublist_of_mem_combinations {α : Type u} {k : Nat} {l c : List α}
    (h : c ∈ combinations k l) : c.Sublist l := by
  induction l generalizing k c with
  | nil =>
    cases k with
    | zero => simp_all [combinations]
    | succ k => simp [combinations] at h
  | cons a rest ih =>
    cases k with
    | zero => simp_all [combinations]
    | succ k =>
      rcases List.mem_append.1 h with h | h
      · obtain ⟨d, hd, rfl⟩ := List.mem_map.1 h
        exact (ih hd).cons_cons a
      · exact (ih h).cons a

theorem length_of_mem_combinations {α : Type u} {k : Nat} {l c : List α}
    (h : c ∈ combinations k l) : c.length = k := by
  induction l generalizing k c with
  | nil =>
    cases k with
    | zero => simp_all [combinations]
    | succ k => simp [combinations] at h
  | cons a rest ih =>
    cases k with
    | zero => simp_all [combinations]
    | succ k =>
      rcases List.mem_append.1 h with h | h
      · obtain ⟨d, hd, rfl⟩ := List.mem_map.1 h
        simp [ih hd]
      · exact ih h

end CircuitDiagnosis
