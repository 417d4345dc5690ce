import CircuitDiagnosis.CommandLine.Program
import CircuitDiagnosis.Proofs.CircuitFile.WellFormed
import CircuitDiagnosis.Proofs.Text.Line

/-!
# Reading printed sets

A set is printed with its members between braces, parted by a comma and a space. The members may
hold commas and braces, but the members of the sets of a circuit that was read hold no blanks
(`ComponentSet.Legible`). So the only spaces are those between two members, and before the first
space there stands the first member with a comma. Hence the text of a set determines the set
(`ComponentSet.eq_of_text_eq`).

The text of a set is on one line and begins with a brace. Hence sets that are printed one below the
other can be told apart, whatever is printed below them, if it does not begin with a brace
(`CommandLine.Output.eq_of_sets_append_eq`).
-/

namespace CircuitDiagnosis

open CircuitFile Text

/-! ### Joined members -/

/-- Words that each have a comma and a space behind them can be told apart. -/
theorem eq_of_flatMap_comma_eq {l m : List (List Char)} (hl : ∀ w ∈ l, IsValue w)
    (hm : ∀ w ∈ m, IsValue w)
    (h : l.flatMap (· ++ [',', ' ']) = m.flatMap (· ++ [',', ' '])) : l = m := by
  induction l generalizing m with
  | nil =>
      cases m with
      | nil => rfl
      | cons v m => simp at h
  | cons w l ih =>
      cases m with
      | nil => simp at h
      | cons v m =>
          obtain ⟨hw, hl⟩ := List.forall_mem_cons.mp hl
          obtain ⟨hv, hm⟩ := List.forall_mem_cons.mp hm
          -- The first space stands behind the first word and its comma.
          have hcomma : isBlank ',' = false := by decide
          have hrun : ∀ u : List Char, IsValue u → ∀ c ∈ u ++ [','], isBlank c = false :=
            fun u hu => List.forall_mem_append.mpr ⟨hu.2, List.forall_mem_singleton.mpr hcomma⟩
          have hcut : (w ++ [',']) ++ ' ' :: l.flatMap (· ++ [',', ' ']) =
              (v ++ [',']) ++ ' ' :: m.flatMap (· ++ [',', ' ']) := by
            simpa only [List.flatMap_cons, List.append_assoc, List.cons_append,
              List.nil_append] using h
          obtain ⟨hword, hrest⟩ := run_append_inj (p := fun c => !isBlank c) (by decide)
            (by simpa using hrun w hw) (by simpa using hrun v hv) hcut
          rw [List.append_cancel_right hword, ih hl hm hrest]

/-- Words that are joined by a comma and a space can be told apart. -/
theorem eq_of_intercalate_comma_eq {l m : List (List Char)} (hl : ∀ w ∈ l, IsValue w)
    (hm : ∀ w ∈ m, IsValue w) (h : [',', ' '].intercalate l = [',', ' '].intercalate m) :
    l = m := by
  cases l with
  | nil =>
      cases m with
      | nil => rfl
      | cons v m => exact absurd h.symm (intercalate_ne_nil (hm v List.mem_cons_self).1 _ m)
  | cons w l =>
      cases m with
      | nil => exact absurd h (intercalate_ne_nil (hl w List.mem_cons_self).1 _ l)
      | cons v m =>
          refine eq_of_flatMap_comma_eq hl hm ?_
          rw [← intercalate_append_self, ← intercalate_append_self, h]

namespace ComponentSet

/-- Each member is a non-empty text without blanks. -/
def Legible (s : ComponentSet) : Prop := ∀ i ∈ s, IsValue i.toList

theorem toList_text (s : ComponentSet) :
    s.text.toList =
      '{' :: ([',', ' '].intercalate (s.toList.map String.toList) ++ ['}']) := by
  unfold text
  rw [String.toList_append, String.toList_append, String.toList_intercalate]
  rfl

/-- A set is determined by its text. -/
theorem eq_of_text_eq {s t : ComponentSet} (hs : s.Legible) (ht : t.Legible)
    (h : s.text = t.text) : s = t := by
  have htext := congrArg String.toList h
  rw [toList_text, toList_text] at htext
  have hmembers := eq_of_intercalate_comma_eq (List.forall_mem_map.mpr hs)
    (List.forall_mem_map.mpr ht) (List.append_cancel_right (List.cons.inj htext).2)
  cases s
  cases t
  cases List.map_injective_iff.mpr (fun _ _ => String.toList_inj.mp) hmembers
  rfl

/-- The only blanks in the text of a set are the spaces between the members. -/
theorem eq_space_of_mem_text {s : ComponentSet} (hs : s.Legible) {c : Char}
    (hc : c ∈ s.text.toList) (hblank : isBlank c = true) : c = ' ' := by
  by_contra hne
  have hplain : ∀ d : Char, isBlank d = false → c ≠ d := by
    rintro d hd rfl
    rw [hblank] at hd
    cases hd
  have hmembers : c ∉ [',', ' '].intercalate (s.toList.map String.toList) := by
    refine not_mem_intercalate ?_ (List.forall_mem_map.mpr fun i hi hci => ?_)
    · simp [hplain ',' (by decide), hne]
    · exact hplain c ((hs i hi).2 c hci) rfl
  rw [toList_text, List.mem_cons, List.mem_append, List.mem_singleton] at hc
  rcases hc with hc | hc | hc
  · exact hplain _ (by decide) hc
  · exact hmembers hc
  · exact hplain _ (by decide) hc

theorem lineFeed_not_mem_text {s : ComponentSet} (hs : s.Legible) : '\n' ∉ s.text.toList :=
  fun h => absurd (eq_space_of_mem_text hs h isBlank_lineFeed) (by decide)

end ComponentSet

/-! ### Printed lists -/

namespace CommandLine.Output

theorem toList_sets (title : String) (l : List ComponentSet) :
    (sets title l).text.toList =
      title.toList ++ [':', '\n'] ++ unlines (l.map fun s => s.text.toList) := by
  simp [sets, String.toList_append, String.toList_join, unlines, List.flatMap_map]

/-- Sets one below the other are determined by their texts, with what stands below them. -/
theorem eq_of_unlines_append_eq {l m : List ComponentSet} (hl : ∀ s ∈ l, s.Legible)
    (hm : ∀ s ∈ m, s.Legible) {x y : List Char} (hx : x.head? ≠ some '{')
    (hy : y.head? ≠ some '{')
    (h : unlines (l.map fun s => s.text.toList) ++ x =
      unlines (m.map fun s => s.text.toList) ++ y) : l = m ∧ x = y := by
  have hbrace : ∀ (s : ComponentSet) (l : List ComponentSet) (z : List Char),
      (unlines ((s :: l).map fun s => s.text.toList) ++ z).head? = some '{' := by
    intro s l z
    rw [List.map_cons, unlines_cons, ComponentSet.toList_text]
    rfl
  induction l generalizing m with
  | nil =>
      cases m with
      | nil => exact ⟨rfl, h⟩
      | cons t m =>
          rw [List.map_nil, unlines_nil, List.nil_append] at h
          rw [h] at hx
          exact absurd (hbrace t m y) hx
  | cons s l ih =>
      obtain ⟨hs, hl⟩ := List.forall_mem_cons.mp hl
      cases m with
      | nil =>
          rw [List.map_nil, unlines_nil, List.nil_append] at h
          rw [← h] at hy
          exact absurd (hbrace s l x) hy
      | cons t m =>
          obtain ⟨ht, hm⟩ := List.forall_mem_cons.mp hm
          have hline : ∀ u : ComponentSet, u.Legible → ∀ c ∈ u.text.toList,
              (c != '\n') = true := by
            intro u hu c hc
            rw [bne_iff_ne]
            rintro rfl
            exact u.lineFeed_not_mem_text hu hc
          rw [List.map_cons, List.map_cons, unlines_cons, unlines_cons, List.append_assoc,
            List.append_assoc] at h
          obtain ⟨htext, hrest⟩ := run_append_inj (p := (· != '\n')) (by decide) (hline s hs)
            (hline t ht) h
          obtain ⟨rfl, hbelow⟩ := ih hl hm hrest
          rw [ComponentSet.eq_of_text_eq hs ht (String.toList_inj.mp htext)]
          exact ⟨rfl, hbelow⟩

/-- The sets that are printed under a title are determined by what is printed, whatever follows that
is not a set. -/
theorem eq_of_sets_append_eq {title : String} {l m : List ComponentSet} (hl : ∀ s ∈ l, s.Legible)
    (hm : ∀ s ∈ m, s.Legible) {x y : String} (hx : x.toList.head? ≠ some '{')
    (hy : y.toList.head? ≠ some '{')
    (h : (sets title l).text ++ x = (sets title m).text ++ y) : l = m ∧ x = y := by
  have hlist := congrArg String.toList h
  rw [String.toList_append, String.toList_append, toList_sets, toList_sets,
    List.append_assoc _ _ x.toList, List.append_assoc _ _ y.toList] at hlist
  obtain ⟨hsets, hbelow⟩ := eq_of_unlines_append_eq hl hm hx hy (List.append_cancel_left hlist)
  exact ⟨hsets, String.toList_inj.mp hbelow⟩

end CommandLine.Output

/-! ### The sets of a circuit -/

/-- Sets of components of a circuit that was read are legible. -/
theorem legible_of_parse {source : String} {r : ObservedCircuit} (h : parse source = .ok r)
    {s : ComponentSet} (hs : s ⊆ r.circuit.all) : s.Legible := by
  intro i hi
  obtain ⟨hne, hchars⟩ :=
    (ObservedCircuit.WellFormed.of_parse h).identifiers i (Circuit.mem_all.mp (hs i hi))
  refine ⟨hne, fun c hc => ?_⟩
  have hchar := hchars c hc
  unfold isIdentifier at hchar
  simpa using (Bool.and_eq_true_iff.mp hchar).2

/-- **Printed sets are unambiguous.** Sets of non-empty identifiers without blanks are equal if
their texts are. Such a text has no other blank than the spaces between the members, so it is on one
line, and the sets that are printed under a title are determined by what is printed there: also if
something else follows, as long as that does not begin like a set. Nothing else is asked of the
identifiers, and those of a circuit that was read are such ones. -/
theorem printed_sets_unambiguous :
    (∀ s t : ComponentSet, s.Legible → t.Legible → s.text = t.text → s = t) ∧
      (∀ s : ComponentSet, s.Legible →
        '\n' ∉ s.text.toList ∧ ∀ c ∈ s.text.toList, isBlank c = true → c = ' ') ∧
      (∀ (title : String) (l m : List ComponentSet) (x y : String),
        (∀ s ∈ l, s.Legible) → (∀ s ∈ m, s.Legible) →
          x.toList.head? ≠ some '{' → y.toList.head? ≠ some '{' →
            (CommandLine.Output.sets title l).text ++ x =
              (CommandLine.Output.sets title m).text ++ y → l = m ∧ x = y) ∧
      ∀ (source : String) (r : ObservedCircuit), parse source = .ok r →
        ∀ s : ComponentSet, s ⊆ r.circuit.all → s.Legible :=
  ⟨fun _ _ hs ht => ComponentSet.eq_of_text_eq hs ht,
    fun _ hs =>
      ⟨ComponentSet.lineFeed_not_mem_text hs, fun _ => ComponentSet.eq_space_of_mem_text hs⟩,
    fun _ _ _ _ _ hl hm hx hy => CommandLine.Output.eq_of_sets_append_eq hl hm hx hy,
    fun _ _ hparse _ => legible_of_parse hparse⟩

/-- The components of a circuit are named by a comma and by a brace: all of them and one of them are
printed differently, and so are lists with and without the empty set. -/
theorem printed_sets_unambiguous_punctuation :
    let brace := String.singleton '}'
    let source := "COMPONENTS:\nANDG(,)\nORG(" ++ brace ++ ")\nENDCOMPONENTS\n" ++
      "BEHAVIOUR:\nIN1(,)=1\nIN2(,)=1\n" ++
      "IN1(" ++ brace ++ ")=1\nIN2(" ++ brace ++ ")=1\nENDBEHAVIOUR\n" ++
      "OBSERVATIONS:\nENDOBSERVATIONS\nOUTOBSERVATIONS:\nENDOUTOBSERVATIONS\n"
    let s : ComponentSet := .ofList [",", brace]
    let t : ComponentSet := .ofList [brace]
    ∃ r, parse source = .ok r ∧ s ⊆ r.circuit.all ∧ t ⊆ r.circuit.all ∧ s.text ≠ t.text ∧
      '\n' ∉ s.text.toList ∧
      (CommandLine.Output.sets "Conflict sets" [t, ∅, s]).text ++ "Hitting sets:\n" ≠
        (CommandLine.Output.sets "Conflict sets" [t, s]).text ++ "Hitting sets:\n" := by
  intro brace source s t
  obtain ⟨htexts, hblanks, hlists, hparsed⟩ := printed_sets_unambiguous
  have hids : (parse source).toOption.map (fun r => r.circuit.ids) = some [",", brace] := by
    decide +kernel
  obtain ⟨r, hr, hall⟩ := exists_ok_of_map_toOption hids
  have hsub : ∀ u : ComponentSet, u.subset (.ofList [",", brace]) = true → u ⊆ r.circuit.all := by
    intro u hu
    unfold Circuit.all
    rw [hall]
    exact OrdSet.subset_iff.mp hu
  have hlegible : ∀ u : ComponentSet, u.subset (.ofList [",", brace]) = true → u.Legible :=
    fun u hu => hparsed source r hr u (hsub u hu)
  have hs := hlegible s (by decide)
  have ht := hlegible t (by decide)
  refine ⟨r, hr, hsub s (by decide), hsub t (by decide), fun h => ?_, (hblanks s hs).1, fun h => ?_⟩
  · exact absurd (htexts s t hs ht h) (by decide)
  · have hempty := hlegible ∅ (by decide)
    obtain ⟨heq, _⟩ := hlists _ _ _ _ _ (by simp [hs, ht, hempty]) (by simp [hs, ht])
      (by decide) (by decide) h
    exact absurd heq (by decide)

end CircuitDiagnosis
