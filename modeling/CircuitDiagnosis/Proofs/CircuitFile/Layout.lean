import CircuitDiagnosis.CircuitFile.Printer
import CircuitDiagnosis.Proofs.CircuitFile.Arrangement

/-!
# The layout of a written file

A file is written as the lines of its four sections between their markers (`renderLines`). A line
without blanks in which no name of a section stands (`IsPlain`) is taken for no marker, and nothing
is trimmed off it. So the sections of a file of such lines are arranged in their order
(`arranged_blocks`), and each is found with its lines (`exists_encloses_renderLines`).

A name of a section has no parentheses, so it stands in a text with a part in parentheses only if it
stands before, in or behind them (`IsPlain.parenthesised`).
-/

namespace CircuitDiagnosis.CircuitFile

open Text

/-! ### Plain texts -/

/-- The text has no blanks, and no word of a marker stands in it. -/
structure IsPlain (text : List Char) : Prop where
  no_blanks : ∀ c ∈ text, isBlank c = false
  no_words : ∀ w ∈ sectionWords, ¬ w.toList <:+: text

theorem IsPlain.lineFeed_not_mem {text : List Char} (h : IsPlain text) : '\n' ∉ text :=
  fun hmem => Bool.false_ne_true ((h.no_blanks _ hmem).symm.trans isBlank_lineFeed)

theorem isPlain_of_all {text : List Char} (hblanks : text.all (fun c => !isBlank c) = true)
    (hwords : ∀ w ∈ sectionWords, ¬ w.toList <:+: text) : IsPlain text where
  no_blanks := fun c hc => Bool.not_eq_true' (isBlank c) ▸ List.all_eq_true.mp hblanks c hc
  no_words := hwords

/-- A word stands before or behind a character that is not in it. -/
theorem infix_append_cons_iff {α : Type} {w x y : List α} {c : α} (hc : c ∉ w) :
    w <:+: x ++ c :: y ↔ w <:+: x ∨ w <:+: y := by
  constructor
  · intro h
    rcases List.infix_append_iff.mp h with h | h | ⟨before, behind, rfl, hbefore, hbehind⟩
    · exact Or.inl h
    · rcases List.infix_cons_iff.mp h with h | h
      · rcases List.prefix_cons_iff.mp h with rfl | ⟨w', rfl, _⟩
        · exact Or.inl List.nil_infix
        · exact absurd List.mem_cons_self hc
      · exact Or.inr h
    · rcases List.prefix_cons_iff.mp hbehind with rfl | ⟨w', rfl, _⟩
      · rw [List.append_nil]
        exact Or.inl hbefore.isInfix
      · exact absurd (List.mem_append_right before List.mem_cons_self) hc
  · rintro (h | h)
    · exact h.trans (List.prefix_append x (c :: y)).isInfix
    · exact (List.infix_cons h).trans (List.suffix_append x (c :: y)).isInfix

theorem parentheses_not_mem_sectionWords : ∀ w ∈ sectionWords, '(' ∉ w.toList ∧ ')' ∉ w.toList := by
  decide +kernel

/-- Parentheses keep the parts of a text apart. -/
theorem IsPlain.parenthesised {before inside behind : List Char} (hbefore : IsPlain before)
    (hinside : IsPlain inside) (hbehind : IsPlain behind) :
    IsPlain (before ++ '(' :: (inside ++ ')' :: behind)) where
  no_blanks := by
    have hparentheses : isBlank '(' = false ∧ isBlank ')' = false := by decide
    simp only [List.forall_mem_append, List.forall_mem_cons]
    exact ⟨hbefore.no_blanks, hparentheses.1, hinside.no_blanks, hparentheses.2, hbehind.no_blanks⟩
  no_words := by
    intro w hw
    obtain ⟨hopen, hclose⟩ := parentheses_not_mem_sectionWords w hw
    rw [infix_append_cons_iff hopen, infix_append_cons_iff hclose, not_or, not_or]
    exact ⟨hbefore.no_words w hw, hinside.no_words w hw, hbehind.no_words w hw⟩

/-! ### Sections of lines -/

namespace Section

/-- The lines of a section between its markers. -/
def block (s : Section) (lines : List (List Char)) : List (List Char) :=
  s.header :: (lines ++ [s.footer])

theorem lineFeed_not_mem_of_mem_block {s : Section} {lines : List (List Char)}
    (h : ∀ l ∈ lines, '\n' ∉ l) : ∀ l ∈ s.block lines, '\n' ∉ l := by
  unfold block
  simp only [List.forall_mem_cons, List.forall_mem_append]
  exact ⟨s.lineFeed_not_mem.1, h, s.lineFeed_not_mem.2, List.forall_mem_nil _⟩

end Section

/-- Sections one below the other are arranged in this order. -/
theorem arranged_blocks {body : Section → List (List Char)} {order : List Section}
    (h : ∀ s ∈ order, ∀ l ∈ body s, LacksWords l) :
    Arranged body order (order.flatMap fun s => s.block (body s)) := by
  induction order with
  | nil => exact .done [] (List.forall_mem_nil _)
  | cons s order ih =>
      obtain ⟨hs, horder⟩ := List.forall_mem_cons.mp h
      have hblock := Arranged.block [] s.header s.footer (List.forall_mem_nil _)
        (isLine_self s.header) hs (isLine_self s.footer) (ih horder)
      simpa [Section.block] using hblock

/-! ### Written files -/

/-- The text of the four sections with these lines. -/
def renderLines (lines : Section → List String) : String :=
  renderSection .components (lines .components) ++ renderSection .behaviour (lines .behaviour) ++
    renderSection .observations (lines .observations) ++
    renderSection .outObservations (lines .outObservations)

theorem toList_renderSection (s : Section) (lines : List String) :
    (renderSection s lines).toList = unlines (s.block (lines.map String.toList)) := by
  unfold renderSection Section.block Section.header Section.footer
  simp [String.toList_append, String.toList_join, unlines, List.flatMap_map]

theorem toList_renderLines (lines : Section → List String) :
    (renderLines lines).toList =
      unlines (Section.inOrder.flatMap fun s => s.block ((lines s).map String.toList)) := by
  unfold renderLines Section.inOrder
  simp only [String.toList_append, toList_renderSection, List.flatMap_cons, List.flatMap_nil,
    List.append_nil, unlines_append, List.append_assoc]

/-- Each section of a file of plain lines is found, and it has its lines. -/
theorem exists_encloses_renderLines {lines : Section → List String}
    (hplain : ∀ s, ∀ l ∈ lines s, l.toList ≠ [] ∧ IsPlain l.toList) (s : Section) :
    ∃ body, s.Encloses (renderLines lines).toList body ∧
      trimmedLines body = (lines s).map String.toList := by
  have hbody : ∀ t, ∀ l ∈ (lines t).map String.toList, l ≠ [] ∧ IsPlain l :=
    fun t => List.forall_mem_map.mpr (hplain t)
  have harranged : Arranged (fun t => (lines t).map String.toList) Section.inOrder _ :=
    arranged_blocks fun t _ l hl => (hbody t l hl).2.no_words
  have hfeed : ∀ l ∈ Section.inOrder.flatMap fun t => t.block ((lines t).map String.toList),
      '\n' ∉ l := by
    intro l hl
    obtain ⟨t, _, hblock⟩ := List.mem_flatMap.mp hl
    exact Section.lineFeed_not_mem_of_mem_block
      (fun m hm => (hbody t m hm).2.lineFeed_not_mem) l hblock
  obtain ⟨found, hfound, hcontent⟩ := harranged.exists_encloses hfeed s.mem_inOrder
  refine ⟨found, ?_, ?_⟩
  · rw [toList_renderLines]
    exact hfound
  · rw [hcontent]
    exact contentLines_eq_self fun l hl => ⟨(hbody s l hl).1, (hbody s l hl).2.no_blanks⟩

end CircuitDiagnosis.CircuitFile
