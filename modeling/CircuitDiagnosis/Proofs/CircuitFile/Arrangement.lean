import CircuitDiagnosis.Proofs.CircuitFile.Reading

/-!
# The arrangement of a circuit file

The four sections of a circuit file may stand in any order, between other lines, with blanks around
their lines and with either line ending. `Arranged` says this of lines in which the names of
sections stand in markers only, and `LaidOut` of a text of such lines.

The header of a section stands in no line above its own. For most markers the letters already tell
so; `OBSERVATIONS:` is a part of `OUTOBSERVATIONS:`, but no word starts there
(`Section.header_standsNowhere`). So each section is found with its lines
(`Arranged.exists_encloses`), and the reader sees what they hold and nothing else
(`LaidOut.parse_eq`). Two texts that hold the same give the same circuit, or the same error
(`parse_eq_of_laidOut`).
-/

namespace CircuitDiagnosis.CircuitFile

open Text

/-! ### Markers and other lines -/

/-- The words that tell the markers of sections from other lines. -/
def sectionWords : List String := ["COMPONENTS", "BEHAVIOUR", "OBSERVATIONS"]

/-- No word of a marker stands in the line. -/
def LacksWords (line : List Char) : Prop := ∀ w ∈ sectionWords, ¬ w.toList <:+: line

/-- What may stand between a line and its line feed. -/
def lineEndings : List (List Char) := [[], ['\r']]

/-- The line is this text, up to the line ending. -/
def IsLine (text line : List Char) : Prop := ∃ ending ∈ lineEndings, line = text ++ ending

instance (line : List Char) : Decidable (LacksWords line) :=
  inferInstanceAs (Decidable (∀ w ∈ sectionWords, ¬ w.toList <:+: line))

instance (text line : List Char) : Decidable (IsLine text line) :=
  inferInstanceAs (Decidable (∃ ending ∈ lineEndings, line = text ++ ending))

theorem isLine_self (text : List Char) : IsLine text text :=
  ⟨[], by decide, (List.append_nil text).symm⟩

theorem contentLines_cons_ending {ending : List Char} (h : ending ∈ lineEndings)
    (lines : List (List Char)) : contentLines (ending :: lines) = contentLines lines := by
  have htrim : ∀ e ∈ lineEndings, trim e = [] := by decide
  exact contentLines_cons_of_trim_eq_nil (htrim ending h) lines

namespace Section

/-- The sections in the order in which they are written. -/
def inOrder : List Section := [.components, .behaviour, .observations, .outObservations]

/-- The markers of a section hold one of the words. -/
theorem exists_word_of_markers (s : Section) :
    ∃ w ∈ sectionWords, w.toList <:+: s.header ∧ w.toList <:+: s.footer := by
  cases s <;> decide +kernel

/-- A line without the words is taken for no marker. -/
theorem standsNowhere_of_lacksWords (s : Section) {line : List Char} (h : LacksWords line)
    (accepts : List Char → Bool) :
    StandsNowhere s.header accepts line ∧ StandsNowhere s.footer accepts line := by
  obtain ⟨w, hw, hheader, hfooter⟩ := s.exists_word_of_markers
  exact ⟨standsNowhere_of_not_isInfix fun hs => h w hw (hheader.trans hs),
    standsNowhere_of_not_isInfix fun hs => h w hw (hfooter.trans hs)⟩

/-- The header of a section stands in no marker of another section. -/
theorem header_standsNowhere {s t : Section} (h : t ≠ s) {line : List Char}
    (hline : IsLine t.header line ∨ IsLine t.footer line) :
    StandsNowhere s.header (fun _ => true) line := by
  have hcut : ∀ ending ∈ lineEndings,
      cut? s.header (fun _ => true) (t.header ++ ending) = none ∧
        cut? s.header (fun _ => true) (t.footer ++ ending) = none := by
    cases s <;> cases t <;> first | exact absurd rfl h | decide +kernel
  rw [← cut?_eq_none_iff s.header_ne_nil]
  rcases hline with ⟨ending, hending, rfl⟩ | ⟨ending, hending, rfl⟩
  · exact (hcut ending hending).1
  · exact (hcut ending hending).2

/-- A section is found with its lines if its header is the first line. -/
theorem exists_encloses_block {s : Section} {header footer : List Char}
    {lines below : List (List Char)} (hheader : IsLine s.header header)
    (hlines : ∀ l ∈ lines, LacksWords l) (hfooter : IsLine s.footer footer)
    (hfeed : ∀ l ∈ lines, '\n' ∉ l) :
    ∃ body, s.Encloses (unlines (header :: (lines ++ footer :: below))) body ∧
      trimmedLines body = contentLines lines := by
  obtain ⟨hheaderFeed, hfooterFeed⟩ := s.lineFeed_not_mem
  obtain ⟨ending, hending, rfl⟩ := hheader
  obtain ⟨ending', hending', rfl⟩ := hfooter
  have hendings : ∀ e ∈ lineEndings, LacksWords e ∧ '\n' ∉ e ∧ closesWord e = true := by
    decide +kernel
  obtain ⟨hwords, hendingFeed, _⟩ := hendings ending hending
  obtain ⟨_, _, hcloses⟩ := hendings ending' hending'
  -- The body starts behind the header, so its first line is what is left of the line of the header.
  have hopened : StandsFirst s.header (fun _ => true)
      (unlines ((s.header ++ ending) :: (lines ++ (s.footer ++ ending') :: below))) []
      (unlines (ending :: lines ++ (s.footer ++ ending') :: below)) := by
    rw [List.cons_append, unlines_cons ending]
    exact standsFirst_unlines s.header_ne_nil hheaderFeed (fun _ _ => rfl)
      (List.forall_mem_nil _) (standsFirst_append rfl)
  have hbody : ∀ l ∈ ending :: lines, StandsNowhere s.footer closesWord l := by
    intro l hl
    refine (s.standsNowhere_of_lacksWords ?_ closesWord).2
    exact List.forall_mem_cons.mpr ⟨hwords, hlines⟩ l hl
  have hclosed : StandsFirst s.footer closesWord
      (unlines (ending :: lines ++ (s.footer ++ ending') :: below))
      (unlines (ending :: lines) ++ []) (ending' ++ '\n' :: unlines below) :=
    standsFirst_unlines s.footer_ne_nil hfooterFeed closesWord_append_lineFeed hbody
      (standsFirst_append hcloses)
  rw [List.append_nil] at hclosed
  refine ⟨unlines (ending :: lines), ⟨_, _, _, hopened, hclosed⟩, ?_⟩
  rw [trimmedLines_unlines (List.forall_mem_cons.mpr ⟨hendingFeed, hfeed⟩),
    contentLines_cons_ending hending]

/-- Lines above the header of a section do not matter. -/
theorem Encloses.below {s : Section} {above rest : List (List Char)} {body : List Char}
    (h : s.Encloses (unlines rest) body)
    (habove : ∀ l ∈ above, StandsNowhere s.header (fun _ => true) l) :
    s.Encloses (unlines (above ++ rest)) body := by
  obtain ⟨before, opened, after, hheader, hfooter⟩ := h
  refine ⟨unlines above ++ before, opened, after, ?_, hfooter⟩
  exact hheader.below_unlines s.header_ne_nil s.lineFeed_not_mem.1 (fun _ _ => rfl) habove

end Section

/-! ### Arranged sections -/

/-- The lines are these sections in this order, each with its body between the lines of its markers,
and other lines around them. -/
inductive Arranged (body : Section → List (List Char)) :
    List Section → List (List Char) → Prop where
  | done (others : List (List Char)) (hothers : ∀ l ∈ others, LacksWords l) :
      Arranged body [] others
  | block {s : Section} {order : List Section} {rest : List (List Char)}
      (others : List (List Char)) (header footer : List Char)
      (hothers : ∀ l ∈ others, LacksWords l) (hheader : IsLine s.header header)
      (hbody : ∀ l ∈ body s, LacksWords l) (hfooter : IsLine s.footer footer)
      (hrest : Arranged body order rest) :
      Arranged body (s :: order) (others ++ header :: (body s ++ footer :: rest))

variable {body body' : Section → List (List Char)}

/-- Each section is found, and its text holds what its lines hold. -/
theorem Arranged.exists_encloses {order : List Section} {lines : List (List Char)}
    (h : Arranged body order lines) (hfeed : ∀ l ∈ lines, '\n' ∉ l) {s : Section}
    (hs : s ∈ order) :
    ∃ found, s.Encloses (unlines lines) found ∧ trimmedLines found = contentLines (body s) := by
  induction h with
  | done => cases hs
  | @block t order rest others header footer hothers hheader hbody hfooter hrest ih =>
      have hothers : ∀ l ∈ others, StandsNowhere s.header (fun _ => true) l :=
        fun l hl => (s.standsNowhere_of_lacksWords (hothers l hl) _).1
      simp only [List.forall_mem_append, List.forall_mem_cons] at hfeed
      obtain ⟨_, _, hbodyFeed, _, hrestFeed⟩ := hfeed
      by_cases ht : t = s
      · subst ht
        obtain ⟨found, hfound, hcontent⟩ :=
          Section.exists_encloses_block hheader hbody hfooter hbodyFeed
        exact ⟨found, hfound.below hothers, hcontent⟩
      · -- Neither the markers of another section nor its body hold the header.
        obtain ⟨found, hfound, hcontent⟩ :=
          ih hrestFeed ((List.mem_cons.mp hs).resolve_left (Ne.symm ht))
        have habove : ∀ l ∈ others ++ header :: (body t ++ [footer]),
            StandsNowhere s.header (fun _ => true) l := by
          simp only [List.forall_mem_append, List.forall_mem_cons]
          refine ⟨hothers, Section.header_standsNowhere ht (Or.inl hheader), fun l hl => ?_,
            Section.header_standsNowhere ht (Or.inr hfooter), List.forall_mem_nil _⟩
          exact (s.standsNowhere_of_lacksWords (hbody l hl) _).1
        refine ⟨found, ?_, hcontent⟩
        simpa using hfound.below habove

/-- The text has the four sections in some order, with these lines in their bodies, where the names
of sections stand in markers only. -/
def LaidOut (body : Section → List (List Char)) (text : String) : Prop :=
  ∃ order : List Section, order.Perm Section.inOrder ∧ Arranged body order (splitLines text.toList)

theorem Section.mem_inOrder (s : Section) : s ∈ inOrder := by
  cases s <;> decide

theorem LaidOut.sectionLines_eq {text : String} (h : LaidOut body text) (s : Section) :
    sectionLines s text.toList = .ok (contentLines (body s)) := by
  obtain ⟨order, hperm, harranged⟩ := h
  have hs : s ∈ order := hperm.mem_iff.mpr s.mem_inOrder
  obtain ⟨found, hfound, hcontent⟩ :=
    harranged.exists_encloses (fun _ => lineFeed_not_mem_of_mem_splitLines) hs
  rw [unlines_splitLines] at hfound
  exact sectionLines_eq_ok_iff.mpr ⟨found, hfound.of_append_lineFeed, hcontent.symm⟩

/-- Reads the lines of declarations, of connections and of observed outputs. -/
def readContent (declarations connections outputs : List (List Char)) :
    Except ParseError ObservedCircuit := do
  let declared ← readDeclarations declarations
  let connected ← connections.mapM (readConnection declared)
  let observed ← outputs.mapM (readOutputObservation declared)
  assemble declared connected observed

/-- Reading a text with these bodies is reading what their lines hold. -/
theorem LaidOut.parse_eq {text : String} (h : LaidOut body text) :
    parse text = readContent (contentLines (body .components))
      (contentLines (body .behaviour) ++ contentLines (body .observations))
      (contentLines (body .outObservations)) := by
  unfold parse readContent
  simp only [h.sectionLines_eq, ok_bind]

/-- **Layout does not matter.** Two texts may have their sections in different orders, with other
lines around them, blanks, blank lines and either line ending, and the same connections on different
sides of the border between the two sections for them. If their lines hold the same otherwise then
both give the same circuit and observations, or the same error, and this is what reading the lines
gives. -/
theorem parse_eq_of_laidOut {text text' : String} (h : LaidOut body text)
    (h' : LaidOut body' text')
    (hcomponents : contentLines (body .components) = contentLines (body' .components))
    (hconnections : contentLines (body .behaviour) ++ contentLines (body .observations) =
      contentLines (body' .behaviour) ++ contentLines (body' .observations))
    (houtputs : contentLines (body .outObservations) = contentLines (body' .outObservations)) :
    parse text = parse text' ∧
      parse text = readContent (contentLines (body .components))
        (contentLines (body .behaviour) ++ contentLines (body .observations))
        (contentLines (body .outObservations)) := by
  refine ⟨?_, h.parse_eq⟩
  rw [h.parse_eq, h'.parse_eq, hcomponents, hconnections, houtputs]

/-- A file in the usual order, and one in the opposite order with notes between its sections,
carriage returns, a blank line, and both connections in one section. -/
theorem parse_eq_of_laidOut_reversed :
    let text := "COMPONENTS:\nANDG(A)\nENDCOMPONENTS\n" ++ "BEHAVIOUR:\nIN1(A)=1\nENDBEHAVIOUR\n" ++
      "OBSERVATIONS:\nIN2(A)=0\n" ++ "ENDOBSERVATIONS\n" ++
      "OUTOBSERVATIONS:\nOUT(A)=1\n" ++ "ENDOUTOBSERVATIONS\n"
    let reversed := "one gate\r\n" ++
      "OUTOBSERVATIONS:\r\n  OUT(A)=1\r\n" ++ "ENDOUTOBSERVATIONS\r\n" ++
      "OBSERVATIONS:\r\nIN1(A)=1\r\n" ++ "\r\nIN2(A)=0 \r\nENDOBSERVATIONS\r\n" ++
      "BEHAVIOUR:\r\nENDBEHAVIOUR\r\n" ++ "ENDCOMP\r\n" ++
      "COMPONENTS:\r\nANDG(A)\r\nENDCOMPONENTS"
    ∃ body body', LaidOut body text ∧ LaidOut body' reversed ∧ parse text = parse reversed ∧
      (parse text).toOption.map ObservedCircuit.observations =
        some [⟨.input "IN1(A)", true⟩, ⟨.input "IN2(A)", false⟩, ⟨.output "A", true⟩] := by
  intro text reversed
  let body : Section → List (List Char) := fun s => s.casesOn
    ["ANDG(A)".toList] ["IN1(A)=1".toList] ["IN2(A)=0".toList] ["OUT(A)=1".toList]
  let body' : Section → List (List Char) := fun s => s.casesOn
    ["ANDG(A)\r".toList] [] ["IN1(A)=1\r".toList, "\r".toList, "IN2(A)=0 \r".toList]
    ["  OUT(A)=1\r".toList]
  have hlines : splitLines text.toList = ["COMPONENTS:", "ANDG(A)", "ENDCOMPONENTS",
      "BEHAVIOUR:", "IN1(A)=1", "ENDBEHAVIOUR", "OBSERVATIONS:", "IN2(A)=0", "ENDOBSERVATIONS",
      "OUTOBSERVATIONS:", "OUT(A)=1", "ENDOUTOBSERVATIONS", ""].map String.toList := by
    simp only [text, String.toList_append]
    decide +kernel
  have hlines' : splitLines reversed.toList = ["one gate\r", "OUTOBSERVATIONS:\r",
      "  OUT(A)=1\r", "ENDOUTOBSERVATIONS\r", "OBSERVATIONS:\r", "IN1(A)=1\r", "\r",
      "IN2(A)=0 \r", "ENDOBSERVATIONS\r", "BEHAVIOUR:\r", "ENDBEHAVIOUR\r", "ENDCOMP\r",
      "COMPONENTS:\r", "ANDG(A)\r", "ENDCOMPONENTS"].map String.toList := by
    simp only [reversed, String.toList_append]
    decide +kernel
  have h : LaidOut body text := by
    refine ⟨Section.inOrder, .refl _, ?_⟩
    rw [hlines]
    refine .block [] _ _ ?_ ?_ ?_ ?_ <| .block [] _ _ ?_ ?_ ?_ ?_ <|
      .block [] _ _ ?_ ?_ ?_ ?_ <| .block [] _ _ ?_ ?_ ?_ ?_ <| .done [[]] ?_
    all_goals decide +kernel
  have h' : LaidOut body' reversed := by
    refine ⟨[.outObservations, .observations, .behaviour, .components], by decide, ?_⟩
    rw [hlines']
    refine .block ["one gate\r".toList] _ _ ?_ ?_ ?_ ?_ <| .block [] _ _ ?_ ?_ ?_ ?_ <|
      .block [] _ _ ?_ ?_ ?_ ?_ <| .block ["ENDCOMP\r".toList] _ _ ?_ ?_ ?_ ?_ <| .done [] ?_
    all_goals decide +kernel
  obtain ⟨hsame, hread⟩ := parse_eq_of_laidOut h h' (by decide +kernel) (by decide +kernel)
    (by decide +kernel)
  refine ⟨body, body', h, h', hsame, ?_⟩
  rw [hread]
  decide +kernel

end CircuitDiagnosis.CircuitFile
