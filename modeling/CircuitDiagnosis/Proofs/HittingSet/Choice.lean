import CircuitDiagnosis.HittingSet.SelectionRule
import Mathlib.Data.List.Nodup
import Mathlib.Order.Bounds.Basic

/-!
# What the heuristics choose

`Heuristic.Chooses` says what each heuristic promises of the place that it picks in a list of sets:
the first one of a smallest set, the first one of a set with the most frequent element, or any place
of the list. The first two promises leave one place only (`Heuristic.Chooses.unique`).

The most frequent element is the least of those that occur in most sets (`IsMostFrequent`). It is
found as the first maximum among increasing elements (`isMostFrequent_of_maxOn?`), whether each
element is counted on its own, as `mostFrequentIndex` does, or all of them in one pass through the
sets, into a map in the order of its keys (`tally`). Both ways pick the same place
(`talliedIndex_eq`).
-/

namespace CircuitDiagnosis

open Std (TransOrd LawfulEqOrd)

universe u v

variable {α : Type u} [Ord α] {sets : List (OrdSet α)}

/-! ### First places -/

/-- The place is the first one of a set with a property. -/
def FirstPlace (P : OrdSet α → Prop) (sets : List (OrdSet α)) (place : Nat) : Prop :=
  IsLeast {i | ∃ s, sets[i]? = some s ∧ P s} place

theorem FirstPlace.lt_length {P : OrdSet α → Prop} {place : Nat}
    (h : FirstPlace P sets place) : place < sets.length := by
  obtain ⟨⟨s, hs, _⟩, _⟩ := h
  exact (List.getElem?_eq_some_iff.mp hs).1

theorem firstPlace_findIdx {P : OrdSet α → Prop} {p : OrdSet α → Bool}
    (hp : ∀ s, p s = true ↔ P s) (h : ∃ s ∈ sets, P s) : FirstPlace P sets (sets.findIdx p) := by
  obtain ⟨s, hs, hP⟩ := h
  have hlt : sets.findIdx p < sets.length :=
    List.findIdx_lt_length_of_exists ⟨s, hs, (hp s).mpr hP⟩
  constructor
  · exact ⟨sets[sets.findIdx p], List.getElem?_eq_getElem hlt, (hp _).mp List.findIdx_getElem⟩
  · rintro i ⟨t, ht, hPt⟩
    by_contra hbefore
    have hfalse := List.not_of_lt_findIdx (not_le.mp hbefore)
    rw [(List.getElem?_eq_some_iff.mp ht).2, (hp t).mpr hPt] at hfalse
    cases hfalse

/-! ### The promises -/

/-- The element is the least of those that occur in the largest number of sets. -/
structure IsMostFrequent (sets : List (OrdSet α)) (a : α) : Prop where
  occurs : ∃ s ∈ sets, a ∈ s
  most : ∀ b, frequency sets b ≤ frequency sets a
  least : ∀ b, frequency sets b = frequency sets a → (compare a b).isLE

/-- What a heuristic promises of the place that it picks in a list of sets. -/
def Heuristic.Chooses (sets : List (OrdSet α)) (place : Nat) : Heuristic → Prop
  | .smallest => FirstPlace (fun s => ∀ t ∈ sets, s.size ≤ t.size) sets place
  | .mostFrequent =>
      (∃ a, IsMostFrequent sets a ∧ FirstPlace (fun s => a ∈ s) sets place) ∨
        (∀ s ∈ sets, s = ∅) ∧ place = 0
  | .random => place < sets.length

theorem IsMostFrequent.unique [TransOrd α] [LawfulEqOrd α] {a b : α}
    (ha : IsMostFrequent sets a) (hb : IsMostFrequent sets b) : a = b := by
  have heq : frequency sets a = frequency sets b := le_antisymm (hb.most a) (ha.most b)
  exact Std.LawfulEqCmp.eq_of_compare
    (Std.OrientedCmp.isLE_antisymm (ha.least b heq.symm) (hb.least a heq))

theorem IsMostFrequent.not_forall_eq_empty {a : α} (h : IsMostFrequent sets a) :
    ¬ ∀ s ∈ sets, s = ∅ := by
  intro hempty
  obtain ⟨s, hs, ha⟩ := h.occurs
  rw [hempty s hs] at ha
  exact OrdSet.not_mem_empty ha

/-- A place as promised is one of the list. -/
theorem Heuristic.Chooses.lt_length {h : Heuristic} {place : Nat} (hne : sets ≠ [])
    (hplace : h.Chooses sets place) : place < sets.length := by
  cases h with
  | smallest => exact FirstPlace.lt_length hplace
  | mostFrequent =>
      rcases hplace with ⟨_, _, hfirst⟩ | ⟨_, rfl⟩
      · exact hfirst.lt_length
      · exact List.length_pos_iff.mpr hne
  | random => exact hplace

/-- Without random choices, only one place is as promised. -/
theorem Heuristic.Chooses.unique [TransOrd α] [LawfulEqOrd α] {h : Heuristic} {i j : Nat}
    (hne : h ≠ .random) (hi : h.Chooses sets i) (hj : h.Chooses sets j) : i = j := by
  cases h with
  | smallest => exact IsLeast.unique hi hj
  | mostFrequent =>
      rcases hi with ⟨a, ha, hfirst⟩ | ⟨hempty, rfl⟩
      · rcases hj with ⟨b, hb, hfirst'⟩ | ⟨hempty, _⟩
        · rw [← ha.unique hb] at hfirst'
          exact IsLeast.unique hfirst hfirst'
        · exact absurd hempty ha.not_forall_eq_empty
      · rcases hj with ⟨b, hb, _⟩ | ⟨_, rfl⟩
        · exact absurd hempty hb.not_forall_eq_empty
        · rfl
  | random => exact absurd rfl hne

theorem chooses_smallestIndex (hne : sets ≠ []) :
    Heuristic.smallest.Chooses sets (smallestIndex sets) := by
  refine firstPlace_findIdx (fun s => ?_) (exists_size_le hne)
  simp only [List.all_eq_true, decide_eq_true_eq]

/-! ### The most frequent element -/

theorem frequency_pos_iff [LawfulEqOrd α] {a : α} :
    0 < frequency sets a ↔ ∃ s ∈ sets, a ∈ s := by
  unfold frequency
  simp only [List.countP_pos_iff, OrdSet.contains_iff]

theorem eq_nil_of_maxOn?_eq_none {β : Type v} {f : β → Nat} {l : List β}
    (h : l.maxOn? f = none) : l = [] := by
  by_contra hne
  have hsome := List.isSome_maxOn?_iff (f := f).mpr hne
  rw [h] at hsome
  cases hsome

/-- A maximum of a list is the first one: all entries before it are below it. -/
theorem exists_split_of_maxOn? {β : Type v} {f : β → Nat} {l : List β} {x : β}
    (h : l.maxOn? f = some x) :
    ∃ before behind, l = before ++ x :: behind ∧ (∀ y ∈ before, f y < f x) ∧
      ∀ y ∈ behind, f y ≤ f x := by
  induction l generalizing x with
  | nil => cases h
  | cons a rest ih =>
      rw [List.maxOn?_cons] at h
      cases hrest : rest.maxOn? f with
      | none =>
          rw [hrest] at h
          obtain rfl : a = x := Option.some.inj h
          obtain rfl : rest = [] := eq_nil_of_maxOn?_eq_none hrest
          exact ⟨[], [], rfl, fun y hy => absurd hy List.not_mem_nil,
            fun y hy => absurd hy List.not_mem_nil⟩
      | some b =>
          rw [hrest] at h
          obtain ⟨before, behind, hsplit, hbefore, hbehind⟩ := ih hrest
          have hmax : maxOn f a b = x := Option.some.inj h
          by_cases hle : f b ≤ f a
          · -- The head keeps its place against an equal entry.
            rw [maxOn_eq_left hle] at hmax
            subst hmax
            refine ⟨[], rest, rfl, fun y hy => absurd hy List.not_mem_nil, fun y hy => ?_⟩
            rw [hsplit] at hy
            rcases List.mem_append.mp hy with hy | hy
            · exact le_trans (le_of_lt (hbefore y hy)) hle
            · rcases List.mem_cons.mp hy with rfl | hy
              · exact hle
              · exact le_trans (hbehind y hy) hle
          · rw [maxOn_eq_right hle] at hmax
            subst hmax
            refine ⟨a :: before, behind, by rw [hsplit]; rfl, fun y hy => ?_, hbehind⟩
            rcases List.mem_cons.mp hy with rfl | hy
            · exact not_le.mp hle
            · exact hbefore y hy

section Entries

variable [TransOrd α] [LawfulEqOrd α] {β : Type v} {entries : List β} {key : β → α}
  {count : β → Nat} (hincreasing : entries.Pairwise fun e d => compare (key e) (key d) = .lt)
  (hkeys : ∀ a, (∃ e ∈ entries, key e = a) ↔ ∃ s ∈ sets, a ∈ s)
  (hcount : ∀ e ∈ entries, count e = frequency sets (key e))

include hincreasing hkeys hcount

omit [TransOrd α] in
/-- Among entries with the elements of the sets as their keys, in increasing order, the first
maximum of the frequencies belongs to the most frequent element. -/
theorem isMostFrequent_of_maxOn? {e : β} (h : entries.maxOn? count = some e) :
    IsMostFrequent sets (key e) := by
  have hmem : e ∈ entries := List.maxOn?_mem h
  have hoccurs : ∃ s ∈ sets, key e ∈ s := (hkeys _).mp ⟨e, hmem, rfl⟩
  obtain ⟨before, behind, rfl, hbefore, hbehind⟩ := exists_split_of_maxOn? h
  refine ⟨hoccurs, fun b => ?_, fun b hb => ?_⟩
  · by_cases hb : ∃ s ∈ sets, b ∈ s
    · obtain ⟨d, hd, rfl⟩ := (hkeys b).mpr hb
      rw [← hcount d hd, ← hcount e hmem]
      rcases List.mem_append.mp hd with hd | hd
      · exact le_of_lt (hbefore d hd)
      · rcases List.mem_cons.mp hd with rfl | hd
        · exact le_refl _
        · exact hbehind d hd
    · rw [← frequency_pos_iff] at hb
      omega
  · -- An element of the same frequency occurs, too, so it has an entry; none is before this one.
    have hpos : 0 < frequency sets b := by
      rw [hb]
      exact frequency_pos_iff.mpr hoccurs
    obtain ⟨d, hd, rfl⟩ := (hkeys b).mpr (frequency_pos_iff.mp hpos)
    rw [← hcount d hd, ← hcount e hmem] at hb
    rcases List.mem_append.mp hd with hd | hd
    · exact absurd hb (ne_of_lt (hbefore d hd))
    · rcases List.mem_cons.mp hd with rfl | hd
      · rw [Std.ReflOrd.compare_self]
        rfl
      · have hlater := (List.pairwise_append.mp hincreasing).2.1
        rw [(List.pairwise_cons.mp hlater).1 d hd]
        rfl

/-- The first place of a set with the key of the first maximum is as promised, and so is the first
place of all without entries. -/
theorem chooses_of_maxOn? {place : Nat}
    (hsome : ∀ e, entries.maxOn? count = some e → place = sets.findIdx fun s => s.contains (key e))
    (hnone : entries.maxOn? count = none → place = 0) :
    Heuristic.mostFrequent.Chooses sets place := by
  cases h : entries.maxOn? count with
  | some e =>
      have hmost := isMostFrequent_of_maxOn? hincreasing hkeys hcount h
      rw [hsome e h]
      exact .inl ⟨key e, hmost, firstPlace_findIdx (fun _ => OrdSet.contains_iff) hmost.occurs⟩
  | none =>
      refine .inr ⟨fun s hs => OrdSet.ext_mem fun a => ⟨fun ha => ?_, fun ha => ?_⟩, hnone h⟩
      · obtain ⟨e, he, _⟩ := (hkeys a).mpr ⟨s, hs, ha⟩
        rw [eq_nil_of_maxOn?_eq_none h] at he
        cases he
      · exact absurd ha OrdSet.not_mem_empty

end Entries

section Lawful

variable [TransOrd α] [LawfulEqOrd α]

theorem chooses_mostFrequentIndex :
    Heuristic.mostFrequent.Chooses sets (mostFrequentIndex sets) := by
  refine chooses_of_maxOn? (OrdSet.union sets).increasing (fun a => ?_) (fun _ _ => rfl)
    (fun a ha => ?_) fun hnone => ?_
  · rw [← OrdSet.mem_union]
    exact exists_eq_right
  · unfold mostFrequentIndex
    rw [show mostFrequent? sets = some a from ha]
  · unfold mostFrequentIndex
    rw [show mostFrequent? sets = none from hnone]

/-! ### Counting in one pass -/

theorem mem_foldl_countOne (l : List α) (counts : Std.TreeMap α Nat) (b : α) :
    b ∈ l.foldl countOne counts ↔ b ∈ counts ∨ b ∈ l := by
  induction l generalizing counts with
  | nil => simp
  | cons a rest ih =>
      have hone : b ∈ countOne counts a ↔ b = a ∨ b ∈ counts := by
        unfold countOne
        rw [Std.TreeMap.mem_alter]
        by_cases hab : compare a b = .eq
        · rw [if_pos hab]
          exact ⟨fun _ => .inl (Std.LawfulEqCmp.eq_of_compare hab).symm, fun _ => rfl⟩
        · rw [if_neg hab]
          refine ⟨.inr, fun h => h.resolve_left ?_⟩
          rintro rfl
          exact hab Std.ReflOrd.compare_self
      rw [List.foldl_cons, ih, hone, List.mem_cons]
      tauto

theorem getD_foldl_countOne (l : List α) (counts : Std.TreeMap α Nat) (b : α) :
    (l.foldl countOne counts).getD b 0 =
      counts.getD b 0 + l.countP fun a => compare a b == .eq := by
  induction l generalizing counts with
  | nil => rfl
  | cons a rest ih =>
      rw [List.foldl_cons, ih, List.countP_cons]
      unfold countOne
      rw [Std.TreeMap.getD_alter]
      by_cases hab : compare a b = .eq
      · obtain rfl : a = b := Std.LawfulEqCmp.eq_of_compare hab
        rw [if_pos hab, if_pos (by rw [hab]; rfl), Option.getD_some,
          Std.TreeMap.getD_eq_getD_getElem?]
        omega
      · rw [if_neg hab, if_neg (by rwa [beq_iff_eq])]
        rfl

omit [TransOrd α] in
/-- The occurrences of an element in the sets together are as many as the sets with it. -/
theorem countP_flatMap_toList (sets : List (OrdSet α)) (b : α) :
    ((sets.flatMap OrdSet.toList).countP fun a => compare a b == .eq) = frequency sets b := by
  classical
  induction sets with
  | nil => rfl
  | cons s rest ih =>
      have hcount : (s.toList.countP fun a => compare a b == .eq) = s.toList.count b := by
        refine List.countP_congr fun a _ => ?_
        rw [beq_iff_eq, beq_iff_eq, Std.LawfulEqCmp.compare_eq_iff_eq]
      have hcons : frequency (s :: rest) b = frequency rest b + if s.contains b then 1 else 0 :=
        List.countP_cons
      rw [List.flatMap_cons, List.countP_append, ih, hcount, s.nodup_toList.count, hcons,
        Nat.add_comm]
      exact congrArg _ (if_congr OrdSet.contains_iff.symm rfl rfl)

theorem mem_tally {a : α} : a ∈ tally sets ↔ ∃ s ∈ sets, a ∈ s := by
  unfold tally
  rw [mem_foldl_countOne, List.mem_flatMap]
  exact ⟨fun h => h.resolve_left Std.TreeMap.not_mem_emptyc, .inr⟩

theorem getD_tally (sets : List (OrdSet α)) (a : α) :
    (tally sets).getD a 0 = frequency sets a := by
  unfold tally
  rw [getD_foldl_countOne, countP_flatMap_toList, Std.TreeMap.getD_emptyc, Nat.zero_add]

theorem chooses_talliedIndex : Heuristic.mostFrequent.Chooses sets (talliedIndex sets) := by
  have hentry : ∀ e : α × Nat, e ∈ (tally sets).toList ↔ (tally sets)[e.1]? = some e.2 :=
    fun _ => Std.TreeMap.mem_toList_iff_getElem?_eq_some
  have hincreasing : (tally sets).toList.Pairwise fun e d => compare e.1 d.1 = .lt :=
    Std.TreeMap.ordered_keys_toList
  have hcount : ∀ e ∈ (tally sets).toList, e.2 = frequency sets e.1 := by
    intro e he
    rw [← getD_tally, Std.TreeMap.getD_eq_getD_getElem?, (hentry e).mp he]
    rfl
  refine chooses_of_maxOn? hincreasing (fun a => ?_) hcount (fun e he => ?_) fun hnone => ?_
  · rw [← mem_tally, Std.TreeMap.mem_iff_isSome_getElem?, Option.isSome_iff_exists]
    constructor
    · rintro ⟨e, he, rfl⟩
      exact ⟨e.2, (hentry e).mp he⟩
    · rintro ⟨n, hn⟩
      exact ⟨(a, n), (hentry _).mpr hn, rfl⟩
  · unfold talliedIndex
    rw [show (tally sets).toList.maxOn? Prod.snd = some e from he]
  · unfold talliedIndex
    rw [show (tally sets).toList.maxOn? Prod.snd = none from hnone]

/-- Counting all elements in one pass leads to the same place as counting each on its own. -/
theorem talliedIndex_eq (sets : List (OrdSet α)) : talliedIndex sets = mostFrequentIndex sets :=
  chooses_talliedIndex.unique (by decide) chooses_mostFrequentIndex

end Lawful

end CircuitDiagnosis
