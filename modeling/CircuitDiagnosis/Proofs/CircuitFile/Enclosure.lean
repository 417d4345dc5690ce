import CircuitDiagnosis.Proofs.CircuitFile.Section

/-!
# The body of a section in the whole text

`Section.body?` finds the header of a section and then a footer in what follows. Here its result is
said of the text as a whole: the text is cut into what stands before the header, the body, and what
follows the footer (`Section.Cuts`), with the shortest text before the header and then the
shortest body (`Section.body?_shortest`).

The two ways of looking at it could differ where a header without a footer behind it stands before
one that has one. They do not, because a footer behind a later header is also behind the earlier one
(`Section.Cuts.of_earlier`).
-/

namespace CircuitDiagnosis.CircuitFile

open Text

namespace Section

variable {s : Section} {source before body after : List Char}

/-- The text consists of a part before the header of the section, the header, a body, the footer and
a part after it. No word character stands before the header, before the footer or behind it. -/
structure Cuts (s : Section) (source before body after : List Char) : Prop where
  text_eq : source = before ++ s.header ++ body ++ s.footer ++ after
  header_opens : ∀ c, before.getLast? = some c → isWord c = false
  footer_opens : ∀ c, (before ++ s.header ++ body).getLast? = some c → isWord c = false
  footer_closes : ∀ c, after.head? = some c → isWord c = false

theorem opensWord_iff {o : Option Char} :
    opensWord o = true ↔ ∀ c, o = some c → isWord c = false := by
  unfold opensWord
  simp only [Option.all_eq_true, Bool.not_eq_true']

theorem closesWord_iff {l : List Char} :
    closesWord l = true ↔ ∀ c, l.head? = some c → isWord c = false := by
  unfold closesWord
  simp only [Option.all_eq_true, Bool.not_eq_true']

/-- Behind the header a word may start at once, because the header ends with a colon. -/
theorem opensWord_behind_header (s : Section) (before body : List Char) :
    opensWord (before ++ s.header ++ body).getLast? = opensWord body.getLast? := by
  have hcolon : opensWord (some ':') = true := by decide
  unfold header
  rw [List.getLast?_append, ← List.append_assoc, List.getLast?_concat]
  cases body.getLast? with
  | none => exact hcolon
  | some c => rfl

/-- The text is cut so if the header stands somewhere and the footer somewhere behind it. -/
theorem cuts_iff_standsAt :
    s.Cuts source before body after ↔
      StandsAt s.header (fun _ => true) source before (body ++ (s.footer ++ after)) ∧
        StandsAt s.footer closesWord (body ++ (s.footer ++ after)) body after := by
  constructor
  · rintro ⟨htext, hheader, hfooter, hcloses⟩
    refine ⟨⟨?_, opensWord_iff.mpr hheader, rfl⟩, ⟨rfl, ?_, closesWord_iff.mpr hcloses⟩⟩
    · rw [htext]
      simp only [List.append_assoc]
    · rw [← opensWord_behind_header s before]
      exact opensWord_iff.mpr hfooter
  · rintro ⟨⟨htext, hheader, _⟩, ⟨_, hfooter, hcloses⟩⟩
    rw [← opensWord_behind_header s before] at hfooter
    refine ⟨?_, opensWord_iff.mp hheader, opensWord_iff.mp hfooter, closesWord_iff.mp hcloses⟩
    rw [htext]
    simp only [List.append_assoc]

/-- A footer behind a header is also behind any earlier header. -/
theorem Cuts.of_earlier (h : s.Cuts source before body after) {b opened : List Char}
    (hb : StandsAt s.header (fun _ => true) source b opened) (hle : b.length ≤ before.length) :
    ∃ m, s.Cuts source b m after := by
  have htext : before ++ s.header ++ (body ++ (s.footer ++ after)) = b ++ s.header ++ opened := by
    rw [List.append_assoc b, ← hb.text_eq, h.text_eq]
    simp only [List.append_assoc]
  have hlength : (b ++ s.header).length ≤ (before ++ s.header).length := by
    rw [List.length_append, List.length_append]
    omega
  -- What lies between the two headers, with the later one, becomes a part of the body.
  obtain ⟨m, hm⟩ := List.prefix_of_prefix_length_le ⟨opened, htext.symm⟩
    (List.prefix_append (before ++ s.header) _) hlength
  have hbody : b ++ s.header ++ (m ++ body) = before ++ s.header ++ body := by
    rw [← List.append_assoc, hm]
  refine ⟨m ++ body, ⟨?_, opensWord_iff.mp hb.opens, ?_, h.footer_closes⟩⟩
  · rw [hbody]
    exact h.text_eq
  · rw [hbody]
    exact h.footer_opens

/-- The body that the first header and the first footer behind it enclose is the shortest one behind
the shortest part before a header. -/
theorem encloses_iff_shortest :
    s.Encloses source body ↔ ∃ before after, s.Cuts source before body after ∧
      (∀ b m a, s.Cuts source b m a → before.length ≤ b.length) ∧
        ∀ m a, s.Cuts source before m a → body.length ≤ m.length := by
  constructor
  · rintro ⟨before, opened, after, hheader, hfooter⟩
    have hopened := hfooter.stands.text_eq
    refine ⟨before, after, ?_, fun b m a hcuts => ?_, fun m a hcuts => ?_⟩
    · refine cuts_iff_standsAt.mpr ⟨?_, ?_⟩
      · rw [← hopened]
        exact hheader.stands
      · rw [← hopened]
        exact hfooter.stands
    · exact hheader.first b _ (cuts_iff_standsAt.mp hcuts).1
    · obtain ⟨hstands, hbehind⟩ := cuts_iff_standsAt.mp hcuts
      obtain ⟨_, hsame⟩ := hstands.eq_of_length_eq hheader.stands rfl
      rw [hsame] at hbehind
      exact hfooter.first m a hbehind
  · rintro ⟨before, after, hcuts, hbefore, hbody⟩
    obtain ⟨hstands, hbehind⟩ := cuts_iff_standsAt.mp hcuts
    refine ⟨before, _, after, ⟨hstands, fun b a hb => ?_⟩, hbehind, fun m a hm => ?_⟩
    · -- An earlier header would have the same footer behind it.
      by_contra hlt
      obtain ⟨m, hm⟩ := hcuts.of_earlier hb (by omega)
      exact hlt (hbefore b m after hm)
    · refine hbody m a (cuts_iff_standsAt.mpr ?_)
      rw [← hm.text_eq]
      exact ⟨hstands, hm⟩

/-- Where a text can be cut, there is a shortest way to do it. -/
theorem Cuts.exists_encloses (h : s.Cuts source before body after) :
    ∃ body, s.Encloses source body := by
  obtain ⟨hheader, _⟩ := cuts_iff_standsAt.mp h
  obtain ⟨b, opened, hfirst⟩ := hheader.exists_first
  obtain ⟨m, hm⟩ := h.of_earlier hfirst.stands (hfirst.first _ _ hheader)
  obtain ⟨hstands, hbehind⟩ := cuts_iff_standsAt.mp hm
  obtain ⟨_, rfl⟩ := hstands.eq_of_length_eq hfirst.stands rfl
  obtain ⟨m', a', hfooter⟩ := hbehind.exists_first
  exact ⟨m', b, _, a', hfirst, hfooter⟩

theorem body?_eq_none_iff :
    s.body? source = none ↔ ¬ ∃ before body after, s.Cuts source before body after := by
  rw [Option.eq_none_iff_forall_ne_some]
  constructor
  · rintro h ⟨before, body, after, hcuts⟩
    obtain ⟨b, hb⟩ := hcuts.exists_encloses
    exact h b (body?_eq_some_iff.mpr hb)
  · intro h body hbody
    obtain ⟨before, after, hcuts, _⟩ := encloses_iff_shortest.mp (body?_eq_some_iff.mp hbody)
    exact h ⟨before, body, after, hcuts⟩

theorem sectionLines_eq_missing_iff :
    sectionLines s source = .error (.missingSection s) ↔ s.body? source = none := by
  unfold sectionLines
  cases s.body? source with
  | none => exact ⟨fun _ => rfl, fun _ => rfl⟩
  | some body => exact ⟨fun h => (by cases h), fun h => (by cases h)⟩

/-- **What the body of a section is.** It is found exactly if the text can be cut around it, with
the shortest text before the header and then the shortest body. The section is missing exactly if
the text cannot be cut at all, and so wherever its header only stands behind word characters. -/
theorem body?_shortest (s : Section) (source : List Char) :
    (∀ body, s.body? source = some body ↔
      ∃ before after, s.Cuts source before body after ∧
        (∀ b m a, s.Cuts source b m a → before.length ≤ b.length) ∧
          ∀ m a, s.Cuts source before m a → body.length ≤ m.length) ∧
      (s.body? source = none ↔ ¬ ∃ before body after, s.Cuts source before body after) ∧
      (sectionLines s source = .error (.missingSection s) ↔
        ¬ ∃ before body after, s.Cuts source before body after) ∧
      ((∀ before after, source = before ++ s.header ++ after →
        ∃ c, before.getLast? = some c ∧ isWord c = true) → s.body? source = none) := by
  refine ⟨fun body => body?_eq_some_iff.trans encloses_iff_shortest, body?_eq_none_iff,
    sectionLines_eq_missing_iff.trans body?_eq_none_iff, fun hheaders => ?_⟩
  refine body?_eq_none_iff.mpr ?_
  rintro ⟨before, body, after, hcuts⟩
  obtain ⟨c, hlast, hword⟩ := hheaders before (body ++ s.footer ++ after) (by
    rw [hcuts.text_eq]
    simp only [List.append_assoc])
  rw [hcuts.header_opens c hlast] at hword
  cases hword

/-- A header in a longer word, a footer in a longer word directly behind the header, and a header
that is repeated in the body do not count; nor does the header of another section that ends like
this one. -/
theorem body?_shortest_false_marks :
    let marked :=
      "éOBSERVATIONS: OBSERVATIONS:ENDOBSERVATIONSé OBSERVATIONS:ENDOBSERVATIONS-ENDOBSERVATIONS"
    let outputs := "OUTOBSERVATIONS:\nOUT(A)=1\nENDOBSERVATIONS\nENDOUTOBSERVATIONS"
    (∃ before after, observations.Cuts marked.toList before
      "ENDOBSERVATIONSé OBSERVATIONS:".toList after ∧
        ∀ b m a, observations.Cuts marked.toList b m a → before.length ≤ b.length) ∧
      (∀ before after, outputs.toList = before ++ observations.header ++ after →
        ∃ c, before.getLast? = some c ∧ isWord c = true) ∧
      observations.body? outputs.toList = none := by
  intro marked outputs
  obtain ⟨hmarked, _⟩ := body?_shortest observations marked.toList
  obtain ⟨_, _, _, houtputs⟩ := body?_shortest observations outputs.toList
  have hplaces : ∀ n < outputs.toList.length + 1,
      observations.header <+: outputs.toList.drop n →
        ((outputs.toList.take n).getLast?.any isWord) = true := by
    decide +kernel
  have hheaders : ∀ before after, outputs.toList = before ++ observations.header ++ after →
      ∃ c, before.getLast? = some c ∧ isWord c = true := by
    intro before after htext
    have hplace := hplaces before.length (by
      rw [htext, List.length_append, List.length_append]
      omega)
    rw [htext, List.append_assoc, List.drop_left, List.take_left] at hplace
    exact (Option.any_eq_true _ _).mp (hplace (List.prefix_append _ _))
  have hbody : observations.body? marked.toList =
      some "ENDOBSERVATIONSé OBSERVATIONS:".toList := by
    decide +kernel
  obtain ⟨before, after, hcuts, hfirst, _⟩ := (hmarked _).mp hbody
  exact ⟨⟨before, after, hcuts, hfirst⟩, hheaders, houtputs hheaders⟩

end Section

end CircuitDiagnosis.CircuitFile
