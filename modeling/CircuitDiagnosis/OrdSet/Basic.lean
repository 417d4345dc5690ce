/-!
# Finite sets over an ordered type

A finite set is the strictly increasing list of its elements, so two sets with the same members
are equal (`OrdSet.ext_mem`) and the list that an answer shows is the set itself.

* `insert`, `ofList`, `union`, `filter`, `diff`: `mem_insert` and its kin say what they contain.
* `contains`, `subset`, `intersects`: the tests, with `contains_iff`, `subset_iff`,
  `intersects_iff`.
* Sets are themselves ordered: first by size, then lexicographically by their elements. A family
  of sets without repeats is therefore again a finite set.
-/

namespace CircuitDiagnosis

open Std

universe u

/-- A finite set over an ordered type, kept as the strictly increasing list of its elements. -/
structure OrdSet (α : Type u) [Ord α] where
  /-- The elements, in increasing order. -/
  toList : List α
  increasing : toList.Pairwise fun a b => compare a b = .lt

namespace OrdSet

variable {α : Type u} [Ord α]

instance : Membership α (OrdSet α) where
  mem s a := a ∈ s.toList

instance : HasSubset (OrdSet α) where
  Subset s t := ∀ a ∈ s, a ∈ t

instance [DecidableEq α] : DecidableEq (OrdSet α) := fun s t =>
  decidable_of_iff (s.toList = t.toList) ⟨by cases s; cases t; simp, by intro h; rw [h]⟩

theorem mem_toList {s : OrdSet α} {a : α} : a ∈ s.toList ↔ a ∈ s := Iff.rfl

/-- The set without elements. -/
def empty : OrdSet α := ⟨[], .nil⟩

instance : EmptyCollection (OrdSet α) := ⟨empty⟩
instance : Inhabited (OrdSet α) := ⟨empty⟩

/-- The number of elements. -/
def size (s : OrdSet α) : Nat := s.toList.length

/-- Whether the set has no element. -/
def isEmpty (s : OrdSet α) : Bool := s.toList.isEmpty

/-- Whether `a` is an element. -/
def contains (s : OrdSet α) (a : α) : Bool := s.toList.any fun b => compare a b == .eq

/-- Whether every element of `s` is one of `t`; that of a larger set is not asked. -/
def subset (s t : OrdSet α) : Bool := s.size ≤ t.size && s.toList.all t.contains

/-- Whether `s` and `t` share an element. -/
def intersects (s t : OrdSet α) : Bool := s.toList.any t.contains

/-- The elements that pass a test. -/
def filter (p : α → Bool) (s : OrdSet α) : OrdSet α := ⟨s.toList.filter p, s.increasing.filter p⟩

/-- The elements of `s` that are not in `t`. -/
def diff (s t : OrdSet α) : OrdSet α := s.filter fun a => !t.contains a

/-! ### Insertion -/

/-- Puts an element into its place in an increasing list, unless it is there already. -/
def insertSorted (a : α) : List α → List α
  | [] => [a]
  | b :: rest =>
    match compare a b with
    | .lt => a :: b :: rest
    | .eq => b :: rest
    | .gt => b :: insertSorted a rest

theorem eq_or_mem_of_mem_insertSorted {a x : α} {l : List α} (h : x ∈ insertSorted a l) :
    x = a ∨ x ∈ l := by
  induction l with
  | nil => simpa [insertSorted] using h
  | cons b rest ih =>
    simp only [insertSorted] at h
    split at h
    · simpa using h
    · exact .inr h
    · rcases List.mem_cons.1 h with rfl | h
      · simp
      · exact (ih h).imp_right (List.mem_cons_of_mem _)

theorem mem_insertSorted [LawfulEqOrd α] {a x : α} {l : List α} :
    x ∈ insertSorted a l ↔ x = a ∨ x ∈ l := by
  refine ⟨eq_or_mem_of_mem_insertSorted, fun h => ?_⟩
  induction l with
  | nil => simpa [insertSorted] using h
  | cons b rest ih =>
    simp only [insertSorted]
    split
    · simpa using h
    · next heq =>
      rcases h with rfl | h
      · simp [LawfulEqCmp.eq_of_compare heq]
      · exact h
    · rcases h with rfl | h
      · exact List.mem_cons_of_mem _ (ih (.inl rfl))
      · rcases List.mem_cons.1 h with rfl | h
        · simp
        · exact List.mem_cons_of_mem _ (ih (.inr h))

theorem pairwise_insertSorted [TransOrd α] (a : α) {l : List α}
    (h : l.Pairwise fun x y => compare x y = .lt) :
    (insertSorted a l).Pairwise fun x y => compare x y = .lt := by
  induction l with
  | nil => simp [insertSorted]
  | cons b rest ih =>
    have hb := List.pairwise_cons.1 h
    simp only [insertSorted]
    split
    · next hlt =>
      refine List.pairwise_cons.2 ⟨fun x hx => ?_, h⟩
      rcases List.mem_cons.1 hx with rfl | hx
      · exact hlt
      · exact TransCmp.lt_trans hlt (hb.1 x hx)
    · exact h
    · next hgt =>
      refine List.pairwise_cons.2 ⟨fun x hx => ?_, ih hb.2⟩
      rcases eq_or_mem_of_mem_insertSorted hx with rfl | hx
      · exact OrientedCmp.gt_iff_lt.1 hgt
      · exact hb.1 x hx

/-- The set with one more element. -/
def insert [TransOrd α] (a : α) (s : OrdSet α) : OrdSet α :=
  ⟨insertSorted a s.toList, pairwise_insertSorted a s.increasing⟩

/-- The set of the members of a list, in any order and with any repeats. -/
def ofList [TransOrd α] (l : List α) : OrdSet α := l.foldr insert empty

/-- The elements of several sets together. -/
def union [TransOrd α] (sets : List (OrdSet α)) : OrdSet α := ofList (sets.flatMap toList)

/-! ### Membership -/

@[simp] theorem not_mem_empty {a : α} : a ∉ (∅ : OrdSet α) := by
  intro h; cases h

@[simp] theorem mem_insert [TransOrd α] [LawfulEqOrd α] {a x : α} {s : OrdSet α} :
    x ∈ s.insert a ↔ x = a ∨ x ∈ s :=
  mem_insertSorted

@[simp] theorem mem_ofList [TransOrd α] [LawfulEqOrd α] {x : α} {l : List α} :
    x ∈ ofList l ↔ x ∈ l := by
  induction l with
  | nil => exact ⟨fun h => (not_mem_empty h).elim, fun h => (by cases h)⟩
  | cons a rest ih =>
    rw [List.mem_cons, ← ih]
    exact mem_insert

@[simp] theorem mem_union [TransOrd α] [LawfulEqOrd α] {a : α} {sets : List (OrdSet α)} :
    a ∈ union sets ↔ ∃ s ∈ sets, a ∈ s := by
  simp [union, mem_toList]

theorem contains_iff [LawfulEqOrd α] {s : OrdSet α} {a : α} : s.contains a = true ↔ a ∈ s := by
  simp only [contains, List.any_eq_true, beq_iff_eq, LawfulEqCmp.compare_eq_iff_eq]
  exact ⟨fun ⟨b, hb, h⟩ => h ▸ hb, fun h => ⟨a, h, rfl⟩⟩

theorem intersects_iff [LawfulEqOrd α] {s t : OrdSet α} :
    s.intersects t = true ↔ ∃ a, a ∈ s ∧ a ∈ t := by
  simp only [intersects, List.any_eq_true, contains_iff]
  exact Iff.rfl

@[simp] theorem mem_filter {s : OrdSet α} {p : α → Bool} {a : α} :
    a ∈ s.filter p ↔ a ∈ s ∧ p a = true :=
  List.mem_filter

@[simp] theorem mem_diff [LawfulEqOrd α] {s t : OrdSet α} {a : α} :
    a ∈ s.diff t ↔ a ∈ s ∧ a ∉ t := by
  simp [diff, ← Bool.not_eq_true, contains_iff]

/-- Two sets with the same members are the same set. -/
theorem ext_mem [TransOrd α] [LawfulEqOrd α] {s t : OrdSet α} (h : ∀ a, a ∈ s ↔ a ∈ t) :
    s = t := by
  obtain ⟨l, hl⟩ := s
  obtain ⟨m, hm⟩ := t
  suffices l = m by subst this; rfl
  replace h : ∀ a, a ∈ l ↔ a ∈ m := h
  induction l generalizing m with
  | nil =>
    cases m with
    | nil => rfl
    | cons b _ => exact absurd ((h b).2 (by simp)) (by simp)
  | cons a l ih =>
    cases m with
    | nil => exact absurd ((h a).1 (by simp)) (by simp)
    | cons b m =>
      have ha := List.pairwise_cons.1 hl
      have hb := List.pairwise_cons.1 hm
      have irrefl : ∀ x : α, compare x x ≠ .lt := fun x => by
        rw [compare_self]; decide
      have hab : a = b := by
        rcases List.mem_cons.1 ((h a).1 (by simp)) with e | ham
        · exact e
        rcases List.mem_cons.1 ((h b).2 (by simp)) with e | hbl
        · exact e.symm
        exact absurd (TransCmp.lt_trans (hb.1 a ham) (ha.1 b hbl)) (irrefl b)
      subst hab
      have : ∀ x, x ∈ l ↔ x ∈ m := fun x => by
        constructor
        · intro hx
          rcases List.mem_cons.1 ((h x).1 (List.mem_cons_of_mem _ hx)) with e | hx'
          · exact absurd (e ▸ ha.1 x hx) (irrefl a)
          · exact hx'
        · intro hx
          rcases List.mem_cons.1 ((h x).2 (List.mem_cons_of_mem _ hx)) with e | hx'
          · exact absurd (e ▸ hb.1 x hx) (irrefl a)
          · exact hx'
      rw [ih ha.2 m hb.2 this]

/-- A set lists each element once. -/
theorem nodup_toList [LawfulEqOrd α] (s : OrdSet α) : s.toList.Nodup := by
  refine s.increasing.imp fun {a b} hlt he => ?_
  rw [he, compare_self] at hlt
  cases hlt

theorem eq_filter_of_subset [TransOrd α] [LawfulEqOrd α] {s t : OrdSet α} (h : s ⊆ t) :
    s = t.filter s.contains :=
  ext_mem fun b => by
    simp only [mem_filter, contains_iff]
    exact ⟨fun hb => ⟨h b hb, hb⟩, fun hb => hb.2⟩

theorem size_le_of_subset [TransOrd α] [LawfulEqOrd α] {s t : OrdSet α} (h : s ⊆ t) :
    s.size ≤ t.size := by
  rw [eq_filter_of_subset h]
  exact List.length_filter_le _ _

/-- A subset that lacks an element is smaller. -/
theorem size_lt_of_subset [TransOrd α] [LawfulEqOrd α] {s t : OrdSet α} {a : α} (h : s ⊆ t)
    (ha : a ∈ t) (hs : a ∉ s) : s.size < t.size := by
  rw [eq_filter_of_subset h]
  exact List.length_filter_lt_length_iff_exists.2 ⟨a, ha, by simp [contains_iff, hs]⟩

theorem subset_iff [TransOrd α] [LawfulEqOrd α] {s t : OrdSet α} :
    s.subset t = true ↔ s ⊆ t := by
  simp only [subset, Bool.and_eq_true, decide_eq_true_eq, List.all_eq_true, contains_iff]
  exact ⟨fun h => h.2, fun h => ⟨size_le_of_subset h, h⟩⟩

/-! ### The order of sets -/

/-- Sets are compared by size, then lexicographically by their increasing elements. -/
instance : Ord (OrdSet α) where
  compare := compareLex (compareOn size) (compareOn toList)

instance [TransOrd α] : TransOrd (OrdSet α) :=
  inferInstanceAs (TransCmp (compareLex (compareOn size) (compareOn toList)))

instance [LawfulEqOrd α] : LawfulEqOrd (OrdSet α) where
  compare_self {s} := by
    change (compare s.size s.size).then (compare s.toList s.toList) = .eq
    simp [compare_self]
  eq_of_compare {s t} h := by
    change (compare s.size t.size).then (compare s.toList t.toList) = .eq at h
    have : s.toList = t.toList := LawfulEqCmp.eq_of_compare (Ordering.then_eq_eq.1 h).2
    cases s; cases t; simp_all

end OrdSet

end CircuitDiagnosis
