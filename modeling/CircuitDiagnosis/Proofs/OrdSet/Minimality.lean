import CircuitDiagnosis.OrdSet.Minimal
import Mathlib.Tactic.ByContra

/-!
# The minimal sets with a property

`Enumerates P l` says that the list `l` shows exactly the sets with the property `P`, each once, by
size and then lexicographically. Such a list is determined by the property (`Enumerates.unique`).

`retainMinimal` enumerates the minimal members of a family (`mem_retainMinimal_iff`). Hence it
enumerates the minimal sets with any property that all members have, as soon as every minimal set
is among them (`enumerates_retainMinimal`): this is how each result of the library that consists of
minimal sets is shown to be exact. Two properties have the same minimal sets if each set with the
one contains a set with the other in the way that `minimalFor_iff_of_cofinal` says.

So the filter gives each family its canonical antichain: it depends on the members only, every
member lies above it, and members may be filtered ahead of the others
(`retainMinimal_canonical`).
-/

namespace CircuitDiagnosis.OrdSet

open Std

universe u

variable {α : Type u} [Ord α]

/-- The list shows exactly the sets with a property, in order and without repeats. -/
structure Enumerates (P : OrdSet α → Prop) (l : List (OrdSet α)) : Prop where
  /-- Smaller sets come first, and sets of one size are in lexicographic order. -/
  ordered : l.Pairwise fun s t =>
    s.size < t.size ∨ s.size = t.size ∧ compare s.toList t.toList = .lt
  mem_iff : ∀ s, s ∈ l ↔ P s

theorem compare_eq_lt_iff {s t : OrdSet α} :
    compare s t = .lt ↔ s.size < t.size ∨ s.size = t.size ∧ compare s.toList t.toList = .lt := by
  change (compare s.size t.size).then (compare s.toList t.toList) = .lt ↔ _
  rw [Ordering.then_eq_lt, Nat.compare_eq_lt, Nat.compare_eq_eq]

/-- Lists are compared lexicographically. -/
theorem compare_list_eq_lt_iff [LawfulEqOrd α] {l m : List α} :
    compare l m = .lt ↔ List.Lex (fun a b => compare a b = .lt) l m := by
  induction l generalizing m with
  | nil =>
      cases m with
      | nil => exact ⟨fun h => (by cases h), fun h => (by cases h)⟩
      | cons b m => exact ⟨fun _ => .nil, fun _ => rfl⟩
  | cons a l ih =>
      cases m with
      | nil => exact ⟨fun h => (by cases h), fun h => (by cases h)⟩
      | cons b m =>
          rw [List.compare_cons_cons, Ordering.then_eq_lt, LawfulEqCmp.compare_eq_iff_eq, ih]
          constructor
          · rintro (h | ⟨rfl, h⟩)
            · exact .rel h
            · exact .cons h
          · rintro (_ | h | h)
            · exact Or.inl h
            · exact Or.inr ⟨rfl, h⟩

/-! ### Subsets -/

theorem subset_refl (s : OrdSet α) : s ⊆ s := fun _ h => h

theorem subset_trans {s t u : OrdSet α} (hst : s ⊆ t) (htu : t ⊆ u) : s ⊆ u :=
  fun a h => htu a (hst a h)

theorem empty_subset (s : OrdSet α) : ∅ ⊆ s := fun _ h => absurd h not_mem_empty

theorem filter_subset (p : α → Bool) (s : OrdSet α) : s.filter p ⊆ s :=
  fun _ h => (mem_filter.mp h).1

theorem exists_mem_of_not_subset {s t : OrdSet α} (h : ¬ s ⊆ t) : ∃ a, a ∈ s ∧ a ∉ t := by
  by_contra hall
  exact h fun a ha => by_contra fun hat => hall ⟨a, ha, hat⟩

section Lawful

variable [TransOrd α] [LawfulEqOrd α]

theorem subset_antisymm {s t : OrdSet α} (hst : s ⊆ t) (hts : t ⊆ s) : s = t :=
  ext_mem fun a => ⟨hst a, hts a⟩

theorem insert_subset {s t : OrdSet α} {a : α} (ha : a ∈ t) (h : s ⊆ t) : s.insert a ⊆ t := by
  intro b hb
  rcases mem_insert.mp hb with rfl | hb
  · exact ha
  · exact h b hb

/-- Two enumerations of one property are the same list. -/
theorem Enumerates.unique {P : OrdSet α → Prop} {l m : List (OrdSet α)} (hl : Enumerates P l)
    (hm : Enumerates P m) : l = m := by
  have hl' := hl.ordered.imp fun h => compare_eq_lt_iff.mpr h
  have hm' := hm.ordered.imp fun h => compare_eq_lt_iff.mpr h
  have he : (⟨l, hl'⟩ : OrdSet (OrdSet α)) = ⟨m, hm'⟩ :=
    ext_mem fun s => (hl.mem_iff s).trans (hm.mem_iff s).symm
  exact congrArg toList he

omit [TransOrd α] [LawfulEqOrd α] in
theorem Enumerates.congr {P Q : OrdSet α → Prop} {l : List (OrdSet α)} (h : Enumerates P l)
    (hPQ : ∀ s, P s ↔ Q s) : Enumerates Q l :=
  ⟨h.ordered, fun s => (h.mem_iff s).trans (hPQ s)⟩

/-! ### Minimal sets -/

/-- Below every set with a property lies a minimal one. -/
theorem exists_minimalFor_subset {P : OrdSet α → Prop} {s : OrdSet α} (hs : P s) :
    ∃ m, m ⊆ s ∧ MinimalFor P m := by
  induction hn : s.size using Nat.strongRecOn generalizing s with
  | _ n ih =>
      by_cases hmin : ∀ t : OrdSet α, t ⊆ s → P t → s ⊆ t
      · exact ⟨s, subset_refl s, hs, hmin⟩
      · -- Some set with the property lies properly below `s`, so it is smaller.
        simp only [not_forall] at hmin
        obtain ⟨t, hts, ht, hnot⟩ := hmin
        obtain ⟨a, ha, hat⟩ := exists_mem_of_not_subset hnot
        have hlt : t.size < n := by
          rw [← hn]
          exact size_lt_of_subset hts ha hat
        obtain ⟨m, hmt, hm⟩ := ih t.size hlt ht rfl
        exact ⟨m, subset_trans hmt hts, hm⟩

theorem MinimalFor.eq_of_subset {P : OrdSet α → Prop} {s t : OrdSet α} (hs : MinimalFor P s)
    (ht : P t) (hts : t ⊆ s) : t = s :=
  subset_antisymm hts (hs.minimal t hts ht)

/-- If the sets with `P` have `Q`, and every set with `Q` contains one with `P`, then both
properties have the same minimal sets. -/
theorem minimalFor_iff_of_cofinal {P Q : OrdSet α → Prop} (hPQ : ∀ s, P s → Q s)
    (hQP : ∀ s, Q s → ∃ t, t ⊆ s ∧ P t) (s : OrdSet α) : MinimalFor P s ↔ MinimalFor Q s := by
  constructor
  · intro h
    refine ⟨hPQ s h.holds, fun t hts ht => ?_⟩
    obtain ⟨r, hrt, hr⟩ := hQP t ht
    exact subset_trans (h.minimal r (subset_trans hrt hts) hr) hrt
  · intro h
    obtain ⟨t, hts, ht⟩ := hQP s h.holds
    have hteq : t = s := h.eq_of_subset (hPQ t ht) hts
    rw [hteq] at ht
    exact ⟨ht, fun r hrs hr => h.minimal r hrs (hPQ r hr)⟩

/-! ### The filter of a family -/

theorem dominated_iff {kept : List (OrdSet α)} {s : OrdSet α} :
    dominated kept s = true ↔ ∃ t ∈ kept, t.size < s.size ∧ t ⊆ s := by
  unfold dominated
  simp only [List.any_eq_true, Bool.and_eq_true, decide_eq_true_eq, subset_iff]

/-- The pass drops a set exactly if a smaller set lies within it, among those kept before or those
still to come. -/
theorem mem_retainUndominated_iff {kept sets : List (OrdSet α)} {s : OrdSet α}
    (hsize : sets.Pairwise fun t u => t.size ≤ u.size) :
    s ∈ retainUndominated kept sets ↔
      s ∈ sets ∧ ∀ t ∈ kept ++ sets, t ⊆ s → ¬ t.size < s.size := by
  induction sets generalizing kept with
  | nil => simp [retainUndominated]
  | cons a rest ih =>
      obtain ⟨ha, hrest⟩ := List.pairwise_cons.mp hsize
      simp only [retainUndominated]
      split
      · next hdom =>
        -- What lies within `a` and was kept also lies within every set that contains `a`.
        obtain ⟨k, hk, hka, hsub⟩ := dominated_iff.mp hdom
        rw [ih hrest]
        simp only [List.mem_append, List.mem_cons]
        constructor
        · rintro ⟨hs, hno⟩
          refine ⟨Or.inr hs, fun t ht hts hlt => ?_⟩
          rcases ht with ht | rfl | ht
          · exact hno t (Or.inl ht) hts hlt
          · exact hno k (Or.inl hk) (subset_trans hsub hts) (by omega)
          · exact hno t (Or.inr ht) hts hlt
        · rintro ⟨rfl | hs, hno⟩
          · exact absurd hka (hno k (Or.inl hk) hsub)
          · exact ⟨hs, fun t ht => hno t (ht.imp_right Or.inr)⟩
      · next hdom =>
        rw [List.mem_cons, ih hrest]
        simp only [List.mem_append, List.mem_cons]
        constructor
        · rintro (rfl | ⟨hs, hno⟩)
          · refine ⟨Or.inl rfl, fun t ht hts hlt => ?_⟩
            rcases ht with ht | rfl | ht
            · exact hdom (dominated_iff.mpr ⟨t, ht, hlt, hts⟩)
            · omega
            · have := ha t ht
              omega
          · refine ⟨Or.inr hs, fun t ht => hno t ?_⟩
            rcases ht with ht | rfl | ht
            · exact Or.inl (Or.inr ht)
            · exact Or.inl (Or.inl rfl)
            · exact Or.inr ht
        · rintro ⟨rfl | hs, hno⟩
          · exact Or.inl rfl
          · refine Or.inr ⟨hs, fun t ht => hno t ?_⟩
            rcases ht with (rfl | ht) | ht
            · exact Or.inr (Or.inl rfl)
            · exact Or.inl ht
            · exact Or.inr (Or.inr ht)

omit [LawfulEqOrd α] in
theorem pairwise_size_deduplicate (sets : List (OrdSet α)) :
    (deduplicate sets).Pairwise fun s t => s.size ≤ t.size := by
  refine (pairwise_deduplicate sets).imp fun h => ?_
  rcases compare_eq_lt_iff.mp h with h | h <;> omega

/-- The filter keeps exactly the minimal members of the family. -/
theorem mem_retainMinimal_iff {sets : List (OrdSet α)} {s : OrdSet α} :
    s ∈ retainMinimal sets ↔ MinimalFor (· ∈ sets) s := by
  unfold retainMinimal
  rw [mem_retainUndominated_iff (pairwise_size_deduplicate sets), List.nil_append, mem_deduplicate]
  simp only [mem_deduplicate]
  constructor
  · rintro ⟨hs, hno⟩
    refine ⟨hs, fun t hts ht a ha => ?_⟩
    by_contra hat
    exact hno t ht hts (size_lt_of_subset hts ha hat)
  · intro h
    refine ⟨h.holds, fun t ht hts hlt => ?_⟩
    have hle := size_le_of_subset (h.minimal t hts ht)
    omega

theorem enumerates_minimal_members (sets : List (OrdSet α)) :
    Enumerates (MinimalFor (· ∈ sets)) (retainMinimal sets) where
  ordered := by
    refine ((pairwise_deduplicate sets).sublist (retainMinimal_sublist sets)).imp fun h => ?_
    exact compare_eq_lt_iff.mp h
  mem_iff _ := mem_retainMinimal_iff

/-- The filter of a family of sets with a property enumerates the minimal sets with it, provided
that the family has all of them. -/
theorem enumerates_retainMinimal {P : OrdSet α → Prop} {sets : List (OrdSet α)}
    (hsound : ∀ s ∈ sets, P s) (hall : ∀ m, MinimalFor P m → m ∈ sets) :
    Enumerates (MinimalFor P) (retainMinimal sets) := by
  refine (enumerates_minimal_members sets).congr fun s => ?_
  refine minimalFor_iff_of_cofinal hsound (fun t ht => ?_) s
  obtain ⟨m, hmt, hm⟩ := exists_minimalFor_subset ht
  exact ⟨m, hmt, hall m hm⟩

/-! ### The canonical antichain of a family -/

/-- A minimal set with a property is one of which no other subset has it. -/
theorem minimalFor_iff {P : OrdSet α → Prop} {s : OrdSet α} :
    MinimalFor P s ↔ P s ∧ ∀ t, P t → t ⊆ s → t = s := by
  constructor
  · exact fun h => ⟨h.holds, fun _ ht hts => h.eq_of_subset ht hts⟩
  · rintro ⟨hs, hall⟩
    refine ⟨hs, fun t hts ht => ?_⟩
    rw [hall t ht hts]
    exact subset_refl s

omit [TransOrd α] in
/-- An enumeration lists each set once. -/
theorem Enumerates.nodup {P : OrdSet α → Prop} {l : List (OrdSet α)} (h : Enumerates P l) :
    l.Nodup := by
  refine h.ordered.imp fun {s t} hlt heq => ?_
  have hlt := compare_eq_lt_iff.mpr hlt
  rw [heq, compare_self] at hlt
  cases hlt

/-- The minimal sets of a family depend on its members only. -/
theorem retainMinimal_congr {sets sets' : List (OrdSet α)} (h : ∀ s, s ∈ sets ↔ s ∈ sets') :
    retainMinimal sets = retainMinimal sets' :=
  (enumerates_minimal_members sets).unique
    ((enumerates_minimal_members sets').congr fun s => by simp only [h])

/-- Every set of a family is above one that the filter keeps. -/
theorem exists_mem_retainMinimal_subset {sets : List (OrdSet α)} {s : OrdSet α} (h : s ∈ sets) :
    ∃ m ∈ retainMinimal sets, m ⊆ s := by
  obtain ⟨m, hms, hm⟩ := exists_minimalFor_subset (P := (· ∈ sets)) h
  exact ⟨m, mem_retainMinimal_iff.mpr hm, hms⟩

/-- No set that the filter keeps lies within another one. -/
theorem pairwise_retainMinimal (sets : List (OrdSet α)) :
    (retainMinimal sets).Pairwise fun s t => ¬ s ⊆ t ∧ ¬ t ⊆ s := by
  refine (enumerates_minimal_members sets).nodup.imp_of_mem fun hs ht hne => ?_
  have hs := mem_retainMinimal_iff.mp hs
  have ht := mem_retainMinimal_iff.mp ht
  exact ⟨fun h => hne (ht.eq_of_subset hs.holds h), fun h => hne (hs.eq_of_subset ht.holds h).symm⟩

/-- Some of the sets may be filtered before the others come in: what that drops has a subset among
the sets that it keeps. -/
theorem retainMinimal_append (sets more : List (OrdSet α)) :
    retainMinimal (sets ++ more) = retainMinimal (retainMinimal sets ++ more) := by
  refine (enumerates_minimal_members _).unique ((enumerates_minimal_members _).congr fun s => ?_)
  refine minimalFor_iff_of_cofinal (fun t ht => ?_) (fun t ht => ?_) s
  · rcases List.mem_append.mp ht with ht | ht
    · exact List.mem_append_left more (mem_retainMinimal_iff.mp ht).holds
    · exact List.mem_append_right sets ht
  · rcases List.mem_append.mp ht with ht | ht
    · obtain ⟨m, hm, hmt⟩ := exists_mem_retainMinimal_subset ht
      exact ⟨m, hmt, List.mem_append_left more hm⟩
    · exact ⟨t, subset_refl t, List.mem_append_right _ ht⟩

/-- **The filter is canonical.** It keeps exactly the sets of the family of which no proper subset
is in the family, each once, by size and then lexicographically. So families with the same members
have the same result, every member contains a set of it, and filtering some members ahead of the
others makes no difference. -/
theorem retainMinimal_canonical (sets : List (OrdSet α)) :
    Enumerates (fun s => s ∈ sets ∧ ∀ t ∈ sets, t ⊆ s → t = s) (retainMinimal sets) ∧
      (retainMinimal sets).Nodup ∧
      (∀ sets', (∀ s, s ∈ sets' ↔ s ∈ sets) → retainMinimal sets' = retainMinimal sets) ∧
      (∀ s ∈ sets, ∃ m ∈ retainMinimal sets, m ⊆ s) ∧
      ∀ more, retainMinimal (sets ++ more) = retainMinimal (retainMinimal sets ++ more) := by
  have henumerates := enumerates_minimal_members sets
  refine ⟨henumerates.congr fun s => minimalFor_iff, henumerates.nodup, ?_, ?_, ?_⟩
  · exact fun sets' h => retainMinimal_congr h
  · exact fun s hs => exists_mem_retainMinimal_subset hs
  · exact retainMinimal_append sets

/-- A family with a repeat and with chains, in two orders, and taken together with sets below some
of its own. -/
theorem retainMinimal_canonical_chains :
    let sets : List (OrdSet Nat) :=
      [ofList [3, 1, 2], ofList [1, 2], ofList [4], ofList [2, 1], ofList [4, 5, 6]]
    let more : List (OrdSet Nat) := [ofList [2], ofList [5, 4]]
    ofList [4, 5, 6] ∈ sets ∧ (∃ m ∈ retainMinimal sets, m ⊆ ofList [4, 5, 6]) ∧
      (∀ s, s ∈ sets.reverse ↔ s ∈ sets) ∧
      retainMinimal sets.reverse = [ofList [4], ofList [1, 2]] ∧
      retainMinimal (sets ++ more) = [ofList [2], ofList [4]] := by
  intro sets more
  obtain ⟨_, _, hcongr, habove, happend⟩ := retainMinimal_canonical sets
  have hmem : ofList [4, 5, 6] ∈ sets := by decide
  have hreverse : ∀ s, s ∈ sets.reverse ↔ s ∈ sets := fun s => List.mem_reverse
  refine ⟨hmem, habove _ hmem, hreverse, (hcongr _ hreverse).trans ?_, (happend more).trans ?_⟩
  · decide
  · decide

end Lawful

end CircuitDiagnosis.OrdSet
