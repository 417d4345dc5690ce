import CircuitDiagnosis.Proofs.CircuitFile.Arrangement
import CircuitDiagnosis.Proofs.CircuitFile.Fault
import CircuitDiagnosis.Proofs.CircuitFile.Language
import Mathlib.Data.List.Perm.Subperm

/-!
# Rejected texts

The error that a text is refused with. It is the first section that is missing; otherwise the first
line at fault, in the order in which the sections are read; otherwise all components with a wrong
number of connections (`Rejection`). The reader gives exactly this error
(`parse_eq_error_iff_rejection`).
-/

namespace CircuitDiagnosis.CircuitFile

open Text

/-! ### The sections and the lines of a text -/

/-- A section is missing. -/
inductive SectionFault (source : List Char) (s : Section) : ParseError → Prop where
  | missing (nowhere : ∀ body, ¬ s.Encloses source body) : SectionFault source s (.missingSection s)

/-- The text has all sections, and these are their trimmed lines that are not blank. -/
def HasLines (source : List Char) (lines : Section → List (List Char)) : Prop :=
  ∀ s : Section, ∃ body, s.Encloses source body ∧ lines s = trimmedLines body

/-- The lines, each with its section, in the order in which they are read: section by section. -/
def inReadingOrder (lines : Section → List (List Char)) : List (Section × List Char) :=
  Section.inOrder.flatMap fun s => (lines s).map fun line => (s, line)

/-- A line in the section of declarations declares the component. -/
def Declares (lines : List (Section × List Char)) (i : ComponentId) : Prop :=
  ∃ line, (Section.components, line) ∈ lines ∧ ∃ d : Declaration, d.Spells line ∧ d.id = i

/-- What is wrong with a line of a text: `lines` are the lines of the text and `before` are those
that are read before it. A declaration is judged by the earlier ones, another line by all. -/
def LineFault (lines before : List (Section × List Char)) :
    Section × List Char → ParseError → Prop
  | (.components, line) => DeclarationFault (Declares before) line
  | (.behaviour, line) => ConnectionFault (Declares lines) line
  | (.observations, line) => ConnectionFault (Declares lines) line
  | (.outObservations, line) => OutputFault (Declares lines) line

/-! ### Numbers of connections -/

namespace Contents

/-- The numbers of connections of the pins of a component. -/
def connectionCount (c : Contents) (i : ComponentId) : ConnectionCount :=
  ⟨i, c.connections.countP fun k => k.component == i && k.pin == .first,
    c.connections.countP fun k => k.component == i && k.pin == .second⟩

/-- These are the declared components that have not one connection for each pin, each once, in the
order of their declarations. -/
structure Miscounted (c : Contents) (wrong : List ComponentId) : Prop where
  ordered : wrong.Sublist c.ids
  once : wrong.Nodup
  mem_iff : ∀ i, i ∈ wrong ↔
    i ∈ c.ids ∧ ((c.connectionCount i).first ≠ 1 ∨ (c.connectionCount i).second ≠ 1)

end Contents

/-- Why a text is no circuit file, and the error that says so: the first section that is missing,
the first line at fault, or the wrong numbers of connections. -/
inductive Rejection (source : List Char) : ParseError → Prop where
  | missing {e : ParseError} (first : FirstFault (fun _ => SectionFault source) Section.inOrder e) :
      Rejection source e
  | line {lines : Section → List (List Char)} {e : ParseError} (has : HasLines source lines)
      (first : FirstFault (LineFault (inReadingOrder lines)) (inReadingOrder lines) e) :
      Rejection source e
  | connections {lines : Section → List (List Char)} {c : Contents} {wrong : List ComponentId}
      (has : HasLines source lines)
      (faultless : Faultless (LineFault (inReadingOrder lines)) (inReadingOrder lines))
      (spelled : c.SpelledBy source) (miscounted : c.Miscounted wrong) (some : wrong ≠ []) :
      Rejection source (.invalidConnections (wrong.map c.connectionCount))

/-! ### Reading the sections -/

theorem sectionLines_eq_error_iff {s : Section} {source : List Char} {e : ParseError} :
    sectionLines s source = .error e ↔ SectionFault source s e := by
  unfold sectionLines
  constructor
  · intro h
    split at h
    · cases h
    · next hnone =>
      cases h
      refine .missing fun body hbody => ?_
      rw [Section.body?_eq_some_iff.mpr hbody] at hnone
      cases hnone
  · rintro ⟨nowhere⟩
    split
    · next body hbody => exact absurd (Section.body?_eq_some_iff.mp hbody) (nowhere body)
    · rfl

/-- Reads the lines of all sections, without counting the connections. -/
def readLines (lines : Section → List (List Char)) : Except ParseError Contents := do
  let declared ← readDeclarations (lines .components)
  let connected ← (lines .behaviour ++ lines .observations).mapM (readConnection declared)
  let observed ← (lines .outObservations).mapM (readOutputObservation declared)
  return ⟨declared, connected, observed⟩

/-- Puts the contents of a file together. -/
def Contents.assemble (c : Contents) : Except ParseError ObservedCircuit :=
  CircuitFile.assemble c.declared c.connections c.outputs

/-- If no section is missing, reading a text is reading the lines of its sections. -/
theorem parse_eq_readLines {text : String} {lines : Section → List (List Char)}
    (h : HasLines text.toList lines) : parse text = readLines lines >>= Contents.assemble := by
  unfold parse readLines
  simp only [sectionLines_eq_ok_iff.mpr (h _), ok_bind, bind_assoc, pure_bind]
  rfl

/-- A text is refused with the first section that is missing. -/
theorem parse_eq_error_of_section {text : String} {e : ParseError}
    (h : FirstFault (fun _ => SectionFault text.toList) Section.inOrder e) :
    parse text = .error e := by
  unfold Section.inOrder at h
  simp only [firstFault_cons_iff, not_firstFault_nil, ← sectionLines_eq_error_iff, and_false,
    or_false] at h
  simp only [← ne_eq, ← exists_eq_ok_iff] at h
  unfold parse
  simp only [bind_eq_error_iff]
  rcases h with h | ⟨⟨_, hcomponents⟩, h | ⟨⟨_, hbehaviour⟩, h | ⟨⟨_, hobservations⟩, h⟩⟩⟩
  · exact .inl h
  · exact .inr ⟨_, hcomponents, .inl h⟩
  · exact .inr ⟨_, hcomponents, .inr ⟨_, hbehaviour, .inl h⟩⟩
  · exact .inr ⟨_, hcomponents, .inr ⟨_, hbehaviour, .inr ⟨_, hobservations, .inl h⟩⟩⟩

theorem faultless_sections_iff {source : List Char} :
    Faultless (fun _ => SectionFault source) Section.inOrder ↔ ∃ lines, HasLines source lines := by
  have hfound : Faultless (fun _ => SectionFault source) Section.inOrder ↔
      ∀ s, ∃ lines, sectionLines s source = .ok lines := by
    rw [faultless_iff_forall_mem]
    simp only [exists_eq_ok_iff, ne_eq, sectionLines_eq_error_iff, Section.mem_inOrder,
      forall_const]
  rw [hfound, Classical.skolem]
  exact exists_congr fun lines => forall_congr' fun s => sectionLines_eq_ok_iff

/-! ### Reading the lines -/

section Lines

variable {lines : Section → List (List Char)} {all passed : List (Section × List Char)}
  {declared : List Declaration} {e : ParseError}

/-- The connections stand in two sections that are read as one. -/
theorem inReadingOrder_eq (lines : Section → List (List Char)) :
    inReadingOrder lines = (lines .components).map (fun line => (.components, line)) ++
      (((lines .behaviour).map (fun line => (.behaviour, line)) ++
        (lines .observations).map (fun line => (.observations, line))) ++
          (lines .outObservations).map (fun line => (.outObservations, line))) := by
  unfold inReadingOrder Section.inOrder
  simp only [List.flatMap_cons, List.flatMap_nil, List.append_nil, List.append_assoc]

theorem declares_inReadingOrder_iff {i : ComponentId} :
    Declares (inReadingOrder lines) i ↔ DeclaredIn (lines .components) i := by
  unfold Declares DeclaredIn inReadingOrder
  simp [Section.mem_inOrder]

theorem firstFault_declarations_iff {l : List (List Char)} :
    FirstFault (LineFault all) (l.map fun line => (.components, line)) e ↔
      readDeclarations l = .error e := by
  have hdeclares : ∀ before : List (List Char),
      Declares (before.map fun line => (.components, line)) = DeclaredIn before := by
    intro before
    funext i
    simp [Declares, DeclaredIn]
  rw [firstFault_map_iff, readDeclarations_eq_error_iff]
  simp only [LineFault, hdeclares]

theorem firstFault_connections_iff (hknown : Declares all = (· ∈ declared.map Declaration.id))
    {l m : List (List Char)} :
    FirstFault (fun before => LineFault all (passed ++ before))
        (l.map (fun line => (.behaviour, line)) ++ m.map (fun line => (.observations, line))) e ↔
      (l ++ m).mapM (readConnection declared) = .error e := by
  rw [mapM_eq_error_iff]
  simp only [readConnection_eq_error_iff, ← hknown]
  rw [firstFault_append_iff, firstFault_append_iff, firstFault_map_iff, firstFault_map_iff,
    faultless_map_iff]
  rfl

theorem firstFault_outputs_iff (hknown : Declares all = (· ∈ declared.map Declaration.id))
    {l : List (List Char)} :
    FirstFault (fun before => LineFault all (passed ++ before))
        (l.map fun line => (.outObservations, line)) e ↔
      l.mapM (readOutputObservation declared) = .error e := by
  rw [mapM_eq_error_iff]
  simp only [readOutputObservation_eq_error_iff, ← hknown]
  rw [firstFault_map_iff]
  rfl

/-- The lines are refused with the fault of the first line at fault: they are read section by
section, and the later ones with the declarations that were read. -/
theorem readLines_eq_error_iff :
    readLines lines = .error e ↔
      FirstFault (LineFault (inReadingOrder lines)) (inReadingOrder lines) e := by
  -- The lines that are split into sections are kept apart from those that a line is judged by.
  have hread : ∀ all, all = inReadingOrder lines →
      (FirstFault (LineFault all) (inReadingOrder lines) e ↔ readLines lines = .error e) := by
    intro all hall
    rw [inReadingOrder_eq]
    refine firstFault_append_iff_bind (fun _ => firstFault_declarations_iff) ?_
    intro declared hdeclared e
    obtain ⟨hspells, _⟩ := readDeclarations_eq_ok_iff.mp hdeclared
    have hknown : Declares all = (· ∈ declared.map Declaration.id) := by
      funext i
      rw [eq_iff_iff, hall, declares_inReadingOrder_iff, declaredIn_iff_of_forall₂ hspells]
    refine firstFault_append_iff_bind (fun _ => firstFault_connections_iff hknown) fun _ _ e => ?_
    rw [bind_pure_eq_error_iff]
    simp only [← List.append_assoc]
    exact firstFault_outputs_iff hknown
  exact (hread _ rfl).symm

theorem exists_readLines_iff :
    (∃ c, readLines lines = .ok c) ↔
      Faultless (LineFault (inReadingOrder lines)) (inReadingOrder lines) := by
  rw [exists_eq_ok_iff, faultless_iff_forall_not_firstFault]
  exact forall_congr' fun e => not_congr readLines_eq_error_iff

/-- What is read of a text without faults are its contents. -/
theorem spelledBy_of_readLines {source : List Char} {c : Contents} (h : HasLines source lines)
    (hread : readLines lines = .ok c) : c.ids.Nodup ∧ c.SpelledBy source := by
  unfold readLines at hread
  simp only [bind_eq_ok_iff] at hread
  obtain ⟨declared, hdeclared, connected, hconnected, observed, hobserved, ⟨⟩⟩ := hread
  obtain ⟨hdeclared, hdistinct⟩ := readDeclarations_eq_ok_iff.mp hdeclared
  have hconnected :=
    ((mapM_eq_ok_iff_of_spells fun _ _ => readConnection_eq_ok_iff).mp hconnected).1
  have hobserved :=
    ((mapM_eq_ok_iff_of_spells fun _ _ => readOutputObservation_eq_ok_iff).mp hobserved).1
  obtain ⟨components, hcomponents, hlines⟩ := h .components
  rw [hlines] at hdeclared
  obtain ⟨behaviour, hbehaviour, hlines⟩ := h .behaviour
  obtain ⟨observations, hobservations, hlines'⟩ := h .observations
  rw [hlines, hlines'] at hconnected
  obtain ⟨outputs, houtputs, hlines⟩ := h .outObservations
  rw [hlines] at hobserved
  exact ⟨hdistinct, ⟨components, hcomponents, hdeclared⟩,
    ⟨behaviour, observations, hbehaviour, hobservations, hconnected⟩,
    ⟨outputs, houtputs, hobserved⟩⟩

end Lines

/-! ### Counting the connections -/

namespace Contents

variable {c : Contents} {wrong : List ComponentId}

/-- Whether a component has not one connection for each pin. -/
def isMiscounted (c : Contents) (i : ComponentId) : Bool :=
  !((c.connectionCount i).first == 1 && (c.connectionCount i).second == 1)

theorem isMiscounted_iff {i : ComponentId} :
    c.isMiscounted i = true ↔
      (c.connectionCount i).first ≠ 1 ∨ (c.connectionCount i).second ≠ 1 := by
  unfold isMiscounted
  rw [Bool.not_eq_true', Bool.and_eq_false_iff, beq_eq_false_iff_ne, beq_eq_false_iff_ne]

/-- The components to be listed are determined. -/
theorem miscounted_iff (hdistinct : c.ids.Nodup) :
    c.Miscounted wrong ↔ wrong = c.ids.filter c.isMiscounted := by
  have hmem : ∀ i, i ∈ c.ids.filter c.isMiscounted ↔
      i ∈ c.ids ∧ ((c.connectionCount i).first ≠ 1 ∨ (c.connectionCount i).second ≠ 1) := by
    intro i
    rw [List.mem_filter, isMiscounted_iff]
  constructor
  · intro h
    refine (hdistinct.perm_iff_eq_of_sublist h.ordered List.filter_sublist).mp ?_
    refine (List.perm_ext_iff_of_nodup h.once (hdistinct.filter _)).mpr fun i => ?_
    rw [h.mem_iff, hmem]
  · rintro rfl
    exact ⟨List.filter_sublist, hdistinct.filter _, hmem⟩

/-- The wrong numbers that are found are those of the components to be listed. -/
theorem filter_connectionCount_eq :
    (c.declared.map (CircuitFile.connectionCount c.connections)).filter
        (fun k => !(k.first == 1 && k.second == 1)) =
      (c.ids.filter c.isMiscounted).map c.connectionCount := by
  have hcount : c.declared.map (CircuitFile.connectionCount c.connections) =
      c.ids.map c.connectionCount := by
    unfold ids
    rw [List.map_map]
    refine List.map_congr_left fun d _ => ?_
    unfold CircuitFile.connectionCount
    rw [length_signalsAt, length_signalsAt]
    rfl
  rw [hcount, List.filter_map]
  rfl

theorem assemble_eq_error_iff (hdistinct : c.ids.Nodup) {e : ParseError} :
    c.assemble = .error e ↔ ∃ wrong, wrong ≠ [] ∧ c.Miscounted wrong ∧
      e = .invalidConnections (wrong.map c.connectionCount) := by
  simp only [miscounted_iff hdistinct]
  unfold assemble CircuitFile.assemble
  simp only [filter_connectionCount_eq, List.isEmpty_map]
  split
  · next hempty =>
    constructor
    · exact fun h => (by cases h)
    · rintro ⟨_, hne, rfl, _⟩
      exact absurd (List.isEmpty_iff.mp hempty) hne
  · next hwrong =>
    constructor
    · rintro ⟨⟩
      exact ⟨_, mt List.isEmpty_iff.mpr hwrong, rfl, rfl⟩
    · rintro ⟨_, _, rfl, rfl⟩
      rfl

end Contents

/-! ### The whole text -/

/-- **The error of a text that is refused.** A text is refused exactly if there is a reason for it.
A missing section comes first, whatever the other sections hold; then the first line at fault,
whatever the later lines and the numbers of connections are; then all wrong numbers of
connections. -/
theorem parse_eq_error_iff_rejection (text : String) (e : ParseError) :
    parse text = .error e ↔ Rejection text.toList e := by
  constructor
  · intro h
    by_cases hsections : Faultless (fun _ => SectionFault text.toList) Section.inOrder
    · obtain ⟨lines, hlines⟩ := faultless_sections_iff.mp hsections
      rw [parse_eq_readLines hlines] at h
      rcases bind_eq_error_iff.mp h with hread | ⟨c, hread, h⟩
      · exact .line hlines (readLines_eq_error_iff.mp hread)
      · obtain ⟨hdistinct, hspelled⟩ := spelledBy_of_readLines hlines hread
        obtain ⟨wrong, hne, hwrong, rfl⟩ := (Contents.assemble_eq_error_iff hdistinct).mp h
        exact .connections hlines (exists_readLines_iff.mp ⟨c, hread⟩) hspelled hwrong hne
    · rw [faultless_iff_forall_not_firstFault] at hsections
      obtain ⟨e', he'⟩ := not_forall_not.mp hsections
      cases (parse_eq_error_of_section he').symm.trans h
      exact .missing he'
  · intro h
    cases h with
    | missing first => exact parse_eq_error_of_section first
    | line has first =>
        rw [parse_eq_readLines has]
        exact bind_eq_error_iff.mpr (.inl (readLines_eq_error_iff.mpr first))
    | connections has faultless spelled miscounted some =>
        obtain ⟨c, hread⟩ := exists_readLines_iff.mpr faultless
        obtain ⟨hdistinct, hspelled⟩ := spelledBy_of_readLines has hread
        rw [spelled.unique hspelled] at miscounted ⊢
        rw [parse_eq_readLines has]
        refine bind_eq_error_iff.mpr (.inr ⟨c, hread, ?_⟩)
        exact (Contents.assemble_eq_error_iff hdistinct).mpr ⟨_, some, miscounted, rfl⟩

/-- A text with a line that has two faults, in front of lines with other faults and of components
with wrong numbers of connections: the right-hand side of the line is at fault. -/
theorem parse_eq_error_iff_rejection_several_faults :
    let text := "OUTOBSERVATIONS:\nOUT(E)=0\nENDOUTOBSERVATIONS\n" ++
      "COMPONENTS:\nANDG(A)\nORG(B)\nENDCOMPONENTS\n" ++
      "BEHAVIOUR:\nIN1(A) = OUT(B)\nIN2(D)=2\nIN1(B)=OUT(C)\nENDBEHAVIOUR\n" ++
      "OBSERVATIONS:\nIN1 A 0\nENDOBSERVATIONS\n"
    ∀ e, Rejection text.toList e ↔ e = .invalidValue "2" := by
  intro text e
  have hvalue : (parse text).map (fun _ => ()) = .error (.invalidValue "2") := by decide +kernel
  have hparse : parse text = .error (.invalidValue "2") := by
    cases hread : parse text with
    | error e' =>
        rw [hread] at hvalue
        cases hvalue
        rfl
    | ok r =>
        rw [hread] at hvalue
        cases hvalue
  rw [← parse_eq_error_iff_rejection text e, hparse, Except.error.injEq, eq_comm]

end CircuitDiagnosis.CircuitFile
