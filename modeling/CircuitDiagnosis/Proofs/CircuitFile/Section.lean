import CircuitDiagnosis.Proofs.CircuitFile.Contents
import CircuitDiagnosis.Proofs.Text.Line

/-!
# Finding sections

`cut?` finds the first place where a marker stands as a word of the text (`cut?_eq_some_iff`), so
the body of a section is what lies between the first place of its header and the first later place
of its footer (`Section.body?_eq_some_iff`).

A marker without line feeds stands within a line, and whether it stands there does not depend on the
other lines (`standsAt_line_iff`). In a text of lines it is therefore found in the first line that
has a place for it (`standsFirst_unlines`), and a line feed at the end of the text does not matter
(`Section.Encloses.of_append_lineFeed`).
-/

namespace CircuitDiagnosis.CircuitFile

open Text

/-! ### Places of a marker -/

variable {marker : List Char} {accepts : List Char → Bool}

theorem StandsAt.eq_of_length_eq {text b a b' a' : List Char}
    (h : StandsAt marker accepts text b a) (h' : StandsAt marker accepts text b' a')
    (hlength : b.length = b'.length) : b = b' ∧ a = a' := by
  obtain ⟨hb, ha⟩ := List.append_inj (h.text_eq.symm.trans h'.text_eq) hlength
  exact ⟨hb, List.append_cancel_left ha⟩

theorem StandsAt.isInfix {text b a : List Char} (h : StandsAt marker accepts text b a) :
    marker <:+: text :=
  ⟨b, a, by rw [h.text_eq, List.append_assoc]⟩

/-- The marker stands nowhere in a text. -/
def StandsNowhere (marker : List Char) (accepts : List Char → Bool) (text : List Char) : Prop :=
  ∀ before after, ¬ StandsAt marker accepts text before after

theorem standsNowhere_of_not_isInfix {text : List Char} (h : ¬ marker <:+: text) :
    StandsNowhere marker accepts text :=
  fun _ _ hs => h hs.isInfix

/-- Of the places of a marker, one is the first. -/
theorem StandsAt.exists_first {text b a : List Char} (h : StandsAt marker accepts text b a) :
    ∃ before after, StandsFirst marker accepts text before after := by
  by_cases hfirst : ∀ b' a', StandsAt marker accepts text b' a' → b.length ≤ b'.length
  · exact ⟨b, a, h, hfirst⟩
  · simp only [Classical.not_forall, Nat.not_le] at hfirst
    obtain ⟨b', a', h', hearlier⟩ := hfirst
    exact h'.exists_first
termination_by b.length

/-- If the marker stands nowhere in the part that was passed, then the first place is found. -/
theorem cutFrom_eq_some_iff (hne : marker ≠ []) {passed rest before after : List Char}
    (hpassed : ∀ b a, StandsAt marker accepts (passed.reverse ++ rest) b a →
      passed.length ≤ b.length) :
    cutFrom marker accepts passed rest = some (before, after) ↔
      StandsFirst marker accepts (passed.reverse ++ rest) before after := by
  induction rest generalizing passed with
  | nil =>
      refine ⟨fun h => (by cases h), fun h => ?_⟩
      have hle := hpassed before after h.stands
      have hlength := congrArg List.length h.stands.text_eq
      have hpos := List.length_pos_iff.mpr hne
      simp only [List.append_nil, List.length_reverse, List.length_append] at hlength
      omega
  | cons c rest ih =>
      by_cases hplace : ∃ a, StandsAt marker accepts (passed.reverse ++ c :: rest) passed.reverse a
      · -- The marker stands right here.
        obtain ⟨a, ha⟩ := hplace
        have hafter : afterMarker? marker (c :: rest) = some a :=
          afterMarker?_eq_some_iff.mpr (List.append_cancel_left ha.text_eq)
        have hcut : cutFrom marker accepts passed (c :: rest) = some (passed.reverse, a) := by
          have hopens := ha.opens
          rw [List.getLast?_reverse] at hopens
          unfold cutFrom
          simp only [hafter, hopens, ha.closes, Bool.and_true, if_true]
        have hhere : StandsFirst marker accepts (passed.reverse ++ c :: rest) passed.reverse a := by
          refine ⟨ha, fun b a hb => ?_⟩
          rw [List.length_reverse]
          exact hpassed b a hb
        rw [hcut, Option.some.injEq, Prod.mk.injEq]
        constructor
        · rintro ⟨rfl, rfl⟩
          exact hhere
        · intro h
          have hle := h.first _ _ ha
          have hge := hhere.first _ _ h.stands
          exact ha.eq_of_length_eq h.stands (Nat.le_antisymm hge hle)
      · -- The marker does not stand here, so the search goes on behind `c`.
        have hcut : cutFrom marker accepts passed (c :: rest) =
            cutFrom marker accepts (c :: passed) rest := by
          rw [cutFrom]
          split
          · next after hafter =>
            refine if_neg fun hand => hplace ⟨after, ?_⟩
            obtain ⟨hopens, hcloses⟩ := Bool.and_eq_true_iff.mp hand
            refine ⟨by rw [afterMarker?_eq_some_iff.mp hafter], ?_, hcloses⟩
            rw [List.getLast?_reverse]
            exact hopens
          · rfl
        have htext : (c :: passed).reverse ++ rest = passed.reverse ++ c :: rest := by simp
        have hpassed' : ∀ b a, StandsAt marker accepts ((c :: passed).reverse ++ rest) b a →
            (c :: passed).length ≤ b.length := by
          rw [htext]
          intro b a hb
          refine Nat.lt_of_le_of_ne (hpassed b a hb) fun hlength => hplace ⟨a, ?_⟩
          have hbpassed : passed.reverse = b := by
            refine (List.append_inj hb.text_eq ?_).1
            rw [List.length_reverse]
            exact hlength
          rw [hbpassed]
          rw [hbpassed] at hb
          exact hb
        rw [hcut, ih hpassed', htext]

theorem cut?_eq_some_iff (hne : marker ≠ []) {text before after : List Char} :
    cut? marker accepts text = some (before, after) ↔
      StandsFirst marker accepts text before after :=
  cutFrom_eq_some_iff hne fun _ _ _ => Nat.zero_le _

theorem cut?_eq_none_iff (hne : marker ≠ []) {text : List Char} :
    cut? marker accepts text = none ↔ StandsNowhere marker accepts text := by
  rw [Option.eq_none_iff_forall_ne_some]
  constructor
  · intro h b a hs
    obtain ⟨before, after, hfirst⟩ := hs.exists_first
    exact h (before, after) ((cut?_eq_some_iff hne).mpr hfirst)
  · rintro h ⟨before, after⟩ hcut
    exact h before after ((cut?_eq_some_iff hne).mp hcut).stands

namespace Section

theorem header_ne_nil (s : Section) : s.header ≠ [] := by
  unfold header
  simp

theorem footer_ne_nil (s : Section) : s.footer ≠ [] := by
  unfold footer
  simp

/-- The body of a section is found exactly if the section is there. -/
theorem body?_eq_some_iff {s : Section} {source body : List Char} :
    s.body? source = some body ↔ s.Encloses source body := by
  unfold body?
  simp only [Option.bind_eq_bind, Option.bind_eq_some_iff, Prod.exists,
    cut?_eq_some_iff s.header_ne_nil, cut?_eq_some_iff s.footer_ne_nil]
  constructor
  · rintro ⟨before, opened, hheader, _, after, hfooter, ⟨⟩⟩
    exact ⟨before, opened, after, hheader, hfooter⟩
  · rintro ⟨before, opened, after, hheader, hfooter⟩
    exact ⟨before, opened, hheader, body, after, hfooter, rfl⟩

theorem Encloses.unique {s : Section} {source body body' : List Char}
    (h : s.Encloses source body) (h' : s.Encloses source body') : body = body' := by
  have hbody := body?_eq_some_iff.mpr h
  rw [body?_eq_some_iff.mpr h'] at hbody
  exact (Option.some.inj hbody).symm

end Section

/-! ### Places in a text of lines -/

theorem isWord_lineFeed : isWord '\n' = false := by decide

/-- A word may start behind a line feed as it may start at the start of a text. -/
theorem opensWord_append_lineFeed (line b : List Char) :
    opensWord (line ++ '\n' :: b).getLast? = opensWord b.getLast? := by
  rw [List.getLast?_append, List.getLast?_cons]
  cases b.getLast? with
  | none => simp [opensWord, isWord_lineFeed]
  | some c => rfl

/-- A word may end before a line feed as it may end at the end of a text. -/
theorem closesWord_append_lineFeed (a rest : List Char) :
    closesWord (a ++ '\n' :: rest) = closesWord a := by
  cases a with
  | nil => simp [closesWord, isWord_lineFeed]
  | cons c a => rfl

section Lines

variable (hne : marker ≠ []) (hfeed : '\n' ∉ marker)
  (haccepts : ∀ a rest, accepts (a ++ '\n' :: rest) = accepts a)

include hne hfeed haccepts

/-- A marker without line feeds stands either within a line or in the text below it. -/
theorem standsAt_line_iff {line rest b a : List Char} :
    StandsAt marker accepts (line ++ '\n' :: rest) b a ↔
      (∃ a', a = a' ++ '\n' :: rest ∧ StandsAt marker accepts line b a') ∨
        ∃ b', b = line ++ '\n' :: b' ∧ StandsAt marker accepts rest b' a := by
  constructor
  · rintro ⟨htext, hopens, hcloses⟩
    rcases List.append_eq_append_iff.mp htext with ⟨x, rfl, hbelow⟩ | ⟨x, rfl, hmarker⟩
    · cases x with
      | nil =>
          -- The marker would start with the line feed.
          cases marker with
          | nil => exact absurd rfl hne
          | cons m marker =>
              obtain ⟨rfl, _⟩ := List.cons_eq_cons.mp hbelow
              exact absurd List.mem_cons_self hfeed
      | cons c b' =>
          obtain ⟨rfl, hrest⟩ := List.cons_eq_cons.mp hbelow
          rw [opensWord_append_lineFeed] at hopens
          exact Or.inr ⟨b', rfl, hrest, hopens, hcloses⟩
    · rcases List.append_eq_append_iff.mp hmarker with ⟨a', rfl, rfl⟩ | ⟨y, rfl, hrest⟩
      · rw [haccepts] at hcloses
        exact Or.inl ⟨a', rfl, rfl, hopens, hcloses⟩
      · cases y with
        | nil =>
            rw [List.nil_append] at hrest
            rw [← hrest, ← List.nil_append ('\n' :: rest), haccepts] at hcloses
            exact Or.inl ⟨[], hrest.symm, by simp, hopens, hcloses⟩
        | cons c y =>
            -- The marker would go over the end of the line.
            obtain ⟨rfl, _⟩ := List.cons_eq_cons.mp hrest
            exact absurd (List.mem_append_right x List.mem_cons_self) hfeed
  · rintro (⟨a', rfl, htext, hopens, hcloses⟩ | ⟨b', rfl, htext, hopens, hcloses⟩)
    · refine ⟨by rw [htext]; simp, hopens, ?_⟩
      rw [haccepts]
      exact hcloses
    · refine ⟨by rw [htext]; simp, ?_, hcloses⟩
      rw [opensWord_append_lineFeed]
      exact hopens

/-- A marker that stands in the first line is found there. -/
theorem StandsFirst.line {line rest b a : List Char} (h : StandsFirst marker accepts line b a) :
    StandsFirst marker accepts (line ++ '\n' :: rest) b (a ++ '\n' :: rest) := by
  refine ⟨(standsAt_line_iff hne hfeed haccepts).mpr (Or.inl ⟨a, rfl, h.stands⟩), ?_⟩
  intro b₂ a₂ h₂
  rcases (standsAt_line_iff hne hfeed haccepts).mp h₂ with ⟨a', _, h'⟩ | ⟨b', rfl, _⟩
  · exact h.first b₂ a' h'
  · have hlength := congrArg List.length h.stands.text_eq
    simp only [List.length_append, List.length_cons] at hlength ⊢
    omega

/-- A marker that does not stand in the first line is found below it. -/
theorem StandsFirst.below {line rest b a : List Char} (h : StandsFirst marker accepts rest b a)
    (hline : StandsNowhere marker accepts line) :
    StandsFirst marker accepts (line ++ '\n' :: rest) (line ++ '\n' :: b) a := by
  refine ⟨(standsAt_line_iff hne hfeed haccepts).mpr (Or.inr ⟨b, rfl, h.stands⟩), ?_⟩
  intro b₂ a₂ h₂
  rcases (standsAt_line_iff hne hfeed haccepts).mp h₂ with ⟨a', _, h'⟩ | ⟨b', rfl, h'⟩
  · exact absurd h' (hline b₂ a')
  · have hle := h.first b' a₂ h'
    simp only [List.length_append, List.length_cons]
    omega

/-- A marker that stands in none of the first lines is found below them. -/
theorem StandsFirst.below_unlines {above rest : List (List Char)} {b a : List Char}
    (h : StandsFirst marker accepts (unlines rest) b a)
    (habove : ∀ l ∈ above, StandsNowhere marker accepts l) :
    StandsFirst marker accepts (unlines (above ++ rest)) (unlines above ++ b) a := by
  induction above with
  | nil => exact h
  | cons l above ih =>
      obtain ⟨hl, habove⟩ := List.forall_mem_cons.mp habove
      rw [List.cons_append, unlines_cons, unlines_cons, List.append_assoc, List.cons_append]
      exact (ih habove).below hne hfeed haccepts hl

/-- In a text of lines a marker is found in the first line in which it stands. -/
theorem standsFirst_unlines {above below : List (List Char)} {line b a : List Char}
    (habove : ∀ l ∈ above, StandsNowhere marker accepts l)
    (hline : StandsFirst marker accepts line b a) :
    StandsFirst marker accepts (unlines (above ++ line :: below)) (unlines above ++ b)
      (a ++ '\n' :: unlines below) := by
  have hfirst : StandsFirst marker accepts (unlines (line :: below)) b
      (a ++ '\n' :: unlines below) := by
    rw [unlines_cons]
    exact hline.line hne hfeed haccepts
  exact hfirst.below_unlines hne hfeed haccepts habove

/-- The first place of a marker is still the first without the line feed at the end of the text. -/
theorem StandsFirst.of_append_lineFeed {text b a : List Char}
    (h : StandsFirst marker accepts (text ++ ['\n']) b a) :
    ∃ a', a = a' ++ ['\n'] ∧ StandsFirst marker accepts text b a' := by
  rcases (standsAt_line_iff hne hfeed haccepts).mp h.stands with ⟨a', rfl, h'⟩ | ⟨b', _, h'⟩
  · refine ⟨a', rfl, h', fun b₂ a₂ h₂ => h.first b₂ (a₂ ++ ['\n']) ?_⟩
    exact (standsAt_line_iff hne hfeed haccepts).mpr (Or.inl ⟨a₂, rfl, h₂⟩)
  · exact absurd (List.infix_nil.mp h'.isInfix) hne

end Lines

theorem standsFirst_append {a : List Char} (hcloses : accepts a = true) :
    StandsFirst marker accepts (marker ++ a) [] a :=
  ⟨⟨rfl, rfl, hcloses⟩, fun _ _ _ => Nat.zero_le _⟩

namespace Section

theorem lineFeed_not_mem (s : Section) : '\n' ∉ s.header ∧ '\n' ∉ s.footer := by
  cases s <;> decide

theorem Encloses.of_append_lineFeed {s : Section} {source body : List Char}
    (h : s.Encloses (source ++ ['\n']) body) : s.Encloses source body := by
  obtain ⟨hheaderFeed, hfooterFeed⟩ := s.lineFeed_not_mem
  obtain ⟨before, _, _, hheader, hfooter⟩ := h
  obtain ⟨opened, rfl, hopened⟩ :=
    hheader.of_append_lineFeed s.header_ne_nil hheaderFeed (fun _ _ => rfl)
  obtain ⟨after, rfl, hbody⟩ :=
    hfooter.of_append_lineFeed s.footer_ne_nil hfooterFeed closesWord_append_lineFeed
  exact ⟨before, opened, after, hopened, hbody⟩

end Section

end CircuitDiagnosis.CircuitFile
