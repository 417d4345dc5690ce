import CircuitDiagnosis.Proofs.CircuitFile.Reading

/-!
# Lines at fault

What is wrong with a line, said by the grammar and by the identifiers that are declared. A line of
each section has its own checks (`DeclarationFault`, `ConnectionFault`, `OutputFault`); they have an
order, and a check speaks of a line only if the checks before it are passed. The reader of a line
refuses exactly the lines at fault, with the error of the fault (`readDeclaration_eq_error_iff`,
`readConnection_eq_error_iff`, `readOutputObservation_eq_error_iff`).

Several lines are refused with the fault of the first line that has one (`FirstFault`), where a line
may be judged by the lines before it, as declarations are (`readDeclarations_eq_error_iff`).
-/

namespace CircuitDiagnosis.CircuitFile

/-! ### Faults -/

section Faults

variable (declared : ComponentId → Prop) (line : List Char)

/-- What is wrong with the line of a declaration, after declarations of these identifiers: first its
shape is checked, then its kind, then whether it is the first declaration of its identifier. -/
inductive DeclarationFault : ParseError → Prop where
  | malformed (shape : ∀ g : GateLine, ¬ g.Spells line) :
      DeclarationFault (.malformedLine (.ofList line))
  | unknownGate {g : GateLine} (shape : g.Spells line) (kind : ∀ k, g.kind ≠ gateWord k) :
      DeclarationFault (.unknownGate g.kind)
  | duplicate {d : Declaration} (spells : d.Spells line) (earlier : declared d.id) :
      DeclarationFault (.duplicateComponent d.id)

/-- What is wrong with a value that stands for a constant. -/
inductive ValueFault (value : String) : ParseError → Prop where
  | invalid (digit : ∀ b, value ≠ bit b) : ValueFault value (.invalidValue value)

/-- What is wrong with the right-hand side of a connection in the line: it names an output of no
declared component, or it names no output and is no digit. -/
inductive SourceFault (value : String) : ParseError → Prop where
  | unknown {i : ComponentId} (wired : SpellsOutput i value.toList) (undeclared : ¬ declared i) :
      SourceFault value (.unknownComponent (.ofList line) i)
  | invalid {e : ParseError} (unwired : ∀ i, ¬ SpellsOutput i value.toList)
      (fault : ValueFault value e) : SourceFault value e

/-- What is wrong with the line of a connection: first its shape is checked, then its right-hand
side, then whether the component that is connected is declared. -/
inductive ConnectionFault : ParseError → Prop where
  | malformed (shape : ∀ p : PinLine, ¬ p.Spells line) :
      ConnectionFault (.malformedLine (.ofList line))
  | source {p : PinLine} {e : ParseError} (shape : p.Spells line)
      (fault : SourceFault declared line p.value e) : ConnectionFault e
  | unknownTarget {p : PinLine} (shape : p.Spells line)
      (source : ∀ e, ¬ SourceFault declared line p.value e) (undeclared : ¬ declared p.component) :
      ConnectionFault (.unknownComponent (.ofList line) p.component)

/-- What is wrong with the line of an observed output: first its shape is checked, then whether the
component is declared, then the value. -/
inductive OutputFault : ParseError → Prop where
  | malformed (shape : ∀ o : OutputLine, ¬ o.Spells line) :
      OutputFault (.malformedLine (.ofList line))
  | unknown {o : OutputLine} (shape : o.Spells line) (undeclared : ¬ declared o.component) :
      OutputFault (.unknownComponent (.ofList line) o.component)
  | value {o : OutputLine} {e : ParseError} (shape : o.Spells line) (known : declared o.component)
      (fault : ValueFault o.value e) : OutputFault e

end Faults

/-! ### Refused lines -/

theorem bind_eq_error_iff {ε α β : Type} {x : Except ε α} {f : α → Except ε β} {e : ε} :
    x >>= f = .error e ↔ x = .error e ∨ ∃ a, x = .ok a ∧ f a = .error e := by
  cases x with
  | error e' =>
      constructor
      · rintro ⟨⟩
        exact .inl rfl
      · rintro (⟨⟨⟩⟩ | ⟨_, ⟨⟩, _⟩)
        rfl
  | ok a =>
      constructor
      · exact fun h => .inr ⟨a, rfl, h⟩
      · rintro (⟨⟨⟩⟩ | ⟨_, ⟨⟩, h⟩)
        exact h

theorem bind_pure_eq_error_iff {ε α β : Type} {x : Except ε α} {f : α → β} {e : ε} :
    (x >>= fun a => pure (f a)) = .error e ↔ x = .error e := by
  rw [bind_eq_error_iff]
  exact ⟨fun h => h.resolve_right fun ⟨_, _, h⟩ => (by cases h), .inl⟩

theorem exists_eq_ok_iff {ε α : Type} {x : Except ε α} :
    (∃ a, x = .ok a) ↔ ∀ e, x ≠ .error e := by
  cases x <;> simp

theorem GateLine.read?_eq_none_iff {line : List Char} :
    GateLine.read? line = none ↔ ∀ g : GateLine, ¬ g.Spells line := by
  simp only [Option.eq_none_iff_forall_ne_some, ne_eq, GateLine.read?_eq_some_iff]

theorem PinLine.read?_eq_none_iff {line : List Char} :
    PinLine.read? line = none ↔ ∀ p : PinLine, ¬ p.Spells line := by
  simp only [Option.eq_none_iff_forall_ne_some, ne_eq, PinLine.read?_eq_some_iff]

theorem OutputLine.read?_eq_none_iff {line : List Char} :
    OutputLine.read? line = none ↔ ∀ o : OutputLine, ¬ o.Spells line := by
  simp only [Option.eq_none_iff_forall_ne_some, ne_eq, OutputLine.read?_eq_some_iff]

theorem readOutput?_eq_none_iff {value : List Char} :
    readOutput? value = none ↔ ∀ i, ¬ SpellsOutput i value := by
  simp only [Option.eq_none_iff_forall_ne_some, ne_eq, readOutput?_eq_some_iff]

theorem gateKind?_eq_none_iff {word : String} :
    gateKind? word = none ↔ ∀ kind, word ≠ gateWord kind := by
  simp only [Option.eq_none_iff_forall_ne_some, ne_eq, gateKind?_eq_some_iff]

theorem readDeclaration_eq_error_iff {earlier : List Declaration} {line : List Char}
    {e : ParseError} :
    readDeclaration earlier line = .error e ↔
      DeclarationFault (· ∈ earlier.map Declaration.id) line e := by
  constructor
  · intro h
    unfold readDeclaration at h
    split at h
    · next hnone =>
      cases h
      exact .malformed (GateLine.read?_eq_none_iff.mp hnone)
    · next g hg =>
      have hshape := GateLine.read?_eq_some_iff.mp hg
      split at h
      · next hkind =>
        cases h
        exact .unknownGate hshape (gateKind?_eq_none_iff.mp hkind)
      · next kind hkind =>
        split at h
        · next hdeclared =>
          cases h
          refine .duplicate (d := ⟨g.id, kind⟩) ?_ (isDeclared_iff.mp hdeclared)
          unfold Declaration.Spells
          rw [← gateKind?_eq_some_iff.mp hkind]
          exact hshape
        · cases h
  · intro h
    unfold readDeclaration
    cases h with
    | malformed shape => rw [GateLine.read?_eq_none_iff.mpr shape]
    | unknownGate shape kind =>
        rw [GateLine.read?_eq_some_iff.mpr shape]
        simp only [gateKind?_eq_none_iff.mpr kind]
    | duplicate spells earlier =>
        rw [GateLine.read?_eq_some_iff.mpr spells]
        simp only [gateKind?_gateWord, isDeclared_iff.mpr earlier]
        rfl

theorem readValue_eq_error_iff {value : String} {e : ParseError} :
    readValue value = .error e ↔ ValueFault value e := by
  constructor
  · intro h
    have hinvalid : ∀ b, value ≠ bit b := by
      rintro b rfl
      rw [readValue_eq_ok_iff.mpr rfl] at h
      cases h
    unfold readValue at h
    split at h <;> cases h
    exact .invalid hinvalid
  · rintro ⟨hinvalid⟩
    unfold readValue
    split
    · exact absurd rfl (hinvalid false)
    · exact absurd rfl (hinvalid true)
    · rfl

section Declared

variable {declared : List Declaration} {line : List Char}

theorem readSource_eq_error_iff {value : String} {e : ParseError} :
    readSource declared line value = .error e ↔
      SourceFault (· ∈ declared.map Declaration.id) line value e := by
  constructor
  · intro h
    unfold readSource at h
    split at h
    · next id hid =>
      split at h
      · cases h
      · next hdeclared =>
        cases h
        exact .unknown (readOutput?_eq_some_iff.mp hid) (mt isDeclared_iff.mpr hdeclared)
    · next hnone =>
      cases hvalue : readValue value with
      | error e' =>
          rw [hvalue] at h
          cases h
          exact .invalid (readOutput?_eq_none_iff.mp hnone) (readValue_eq_error_iff.mp hvalue)
      | ok b =>
          rw [hvalue] at h
          cases h
  · intro h
    unfold readSource
    cases h with
    | unknown wired undeclared =>
        rw [readOutput?_eq_some_iff.mpr wired]
        exact if_neg (mt isDeclared_iff.mp undeclared)
    | invalid unwired fault =>
        rw [readOutput?_eq_none_iff.mpr unwired]
        simp only [readValue_eq_error_iff.mpr fault]
        rfl

theorem exists_readSource_iff {value : String} :
    (∃ source, readSource declared line value = .ok source) ↔
      ∀ e, ¬ SourceFault (· ∈ declared.map Declaration.id) line value e := by
  simp only [exists_eq_ok_iff, ne_eq, readSource_eq_error_iff]

theorem readConnection_eq_error_iff {e : ParseError} :
    readConnection declared line = .error e ↔
      ConnectionFault (· ∈ declared.map Declaration.id) line e := by
  constructor
  · intro h
    unfold readConnection at h
    split at h
    · next hnone =>
      cases h
      exact .malformed (PinLine.read?_eq_none_iff.mp hnone)
    · next p hp =>
      have hshape := PinLine.read?_eq_some_iff.mp hp
      rcases bind_eq_error_iff.mp h with hsource | ⟨source, hsource, h⟩
      · exact .source hshape (readSource_eq_error_iff.mp hsource)
      · split at h
        · cases h
        · next htarget =>
          cases h
          exact .unknownTarget hshape (exists_readSource_iff.mp ⟨source, hsource⟩)
            (mt isDeclared_iff.mpr htarget)
  · intro h
    unfold readConnection
    cases h with
    | malformed shape => rw [PinLine.read?_eq_none_iff.mpr shape]
    | source shape fault =>
        rw [PinLine.read?_eq_some_iff.mpr shape]
        exact bind_eq_error_iff.mpr (.inl (readSource_eq_error_iff.mpr fault))
    | unknownTarget shape source undeclared =>
        rw [PinLine.read?_eq_some_iff.mpr shape]
        obtain ⟨source, hsource⟩ := exists_readSource_iff.mpr source
        refine bind_eq_error_iff.mpr (.inr ⟨source, hsource, ?_⟩)
        exact if_neg (mt isDeclared_iff.mp undeclared)

theorem readOutputObservation_eq_error_iff {e : ParseError} :
    readOutputObservation declared line = .error e ↔
      OutputFault (· ∈ declared.map Declaration.id) line e := by
  constructor
  · intro h
    unfold readOutputObservation at h
    split at h
    · next hnone =>
      cases h
      exact .malformed (OutputLine.read?_eq_none_iff.mp hnone)
    · next o ho =>
      have hshape := OutputLine.read?_eq_some_iff.mp ho
      split at h
      · next hdeclared =>
        rcases bind_eq_error_iff.mp h with hvalue | ⟨_, _, ⟨⟩⟩
        exact .value hshape (isDeclared_iff.mp hdeclared) (readValue_eq_error_iff.mp hvalue)
      · next hdeclared =>
        cases h
        exact .unknown hshape (mt isDeclared_iff.mpr hdeclared)
  · intro h
    unfold readOutputObservation
    cases h with
    | malformed shape => rw [OutputLine.read?_eq_none_iff.mpr shape]
    | unknown shape undeclared =>
        rw [OutputLine.read?_eq_some_iff.mpr shape]
        exact if_neg (mt isDeclared_iff.mp undeclared)
    | value shape known fault =>
        rw [OutputLine.read?_eq_some_iff.mpr shape]
        refine (if_pos (isDeclared_iff.mpr known)).trans ?_
        exact bind_eq_error_iff.mpr (.inl (readValue_eq_error_iff.mpr fault))

end Declared

/-! ### The first line at fault -/

section FirstFault

variable {α β ε : Type} {Fault : List α → α → ε → Prop} {a : α} {l m : List α} {e : ε}

/-- No member of the list is at fault, each judged with the ones before it. -/
def Faultless (Fault : List α → α → ε → Prop) (l : List α) : Prop :=
  ∀ before a after, l = before ++ a :: after → ∀ e, ¬ Fault before a e

/-- A member of the list is at fault and none before it. -/
def FirstFault (Fault : List α → α → ε → Prop) (l : List α) (e : ε) : Prop :=
  ∃ before a after, l = before ++ a :: after ∧ Faultless Fault before ∧ Fault before a e

theorem faultless_nil : Faultless Fault [] := by
  intro before a after h
  cases before <;> cases h

theorem faultless_cons_iff :
    Faultless Fault (a :: l) ↔
      (∀ e, ¬ Fault [] a e) ∧ Faultless (fun before => Fault (a :: before)) l := by
  constructor
  · intro h
    refine ⟨h [] a l rfl, fun before b after hl => ?_⟩
    exact h (a :: before) b after (congrArg (a :: ·) hl)
  · rintro ⟨ha, hl⟩ (_ | ⟨_, before⟩) b after ⟨⟩
    · exact ha
    · exact hl before b after rfl

theorem not_firstFault_nil : ¬ FirstFault Fault [] e := by
  rintro ⟨_ | _, _, _, ⟨⟩, _⟩

theorem firstFault_cons_iff :
    FirstFault Fault (a :: l) e ↔
      Fault [] a e ∨
        (∀ e, ¬ Fault [] a e) ∧ FirstFault (fun before => Fault (a :: before)) l e := by
  constructor
  · rintro ⟨_ | ⟨_, before⟩, b, after, ⟨⟩, hbefore, hfault⟩
    · exact .inl hfault
    · obtain ⟨ha, hbefore⟩ := faultless_cons_iff.mp hbefore
      exact .inr ⟨ha, before, b, after, rfl, hbefore, hfault⟩
  · rintro (hfault | ⟨ha, before, b, after, rfl, hbefore, hfault⟩)
    · exact ⟨[], a, l, rfl, faultless_nil, hfault⟩
    · exact ⟨a :: before, b, after, rfl, faultless_cons_iff.mpr ⟨ha, hbefore⟩, hfault⟩

/-- A list without a fault has no first one, and the other way round. -/
theorem faultless_iff_forall_not_firstFault :
    Faultless Fault l ↔ ∀ e, ¬ FirstFault Fault l e := by
  constructor
  · rintro h e ⟨before, a, after, hl, _, hfault⟩
    exact h before a after hl e hfault
  · induction l generalizing Fault with
    | nil => exact fun _ => faultless_nil
    | cons a rest ih =>
        intro h
        have ha : ∀ e, ¬ Fault [] a e := fun e he => h e (firstFault_cons_iff.mpr (.inl he))
        refine faultless_cons_iff.mpr ⟨ha, ih fun e he => ?_⟩
        exact h e (firstFault_cons_iff.mpr (.inr ⟨ha, he⟩))

/-- If the members before do not matter, no member is at fault. -/
theorem faultless_iff_forall_mem {Fault : α → ε → Prop} :
    Faultless (fun _ => Fault) l ↔ ∀ a ∈ l, ∀ e, ¬ Fault a e := by
  constructor
  · intro h a ha
    obtain ⟨before, after, hl⟩ := List.append_of_mem ha
    exact h before a after hl
  · rintro h before a after rfl
    exact h a (List.mem_append_right before List.mem_cons_self)

theorem firstFault_append_iff :
    FirstFault Fault (l ++ m) e ↔
      FirstFault Fault l e ∨
        Faultless Fault l ∧ FirstFault (fun before => Fault (l ++ before)) m e := by
  induction l generalizing Fault with
  | nil => exact ⟨fun h => .inr ⟨faultless_nil, h⟩, fun h => (h.resolve_left not_firstFault_nil).2⟩
  | cons a rest ih =>
      rw [List.cons_append, firstFault_cons_iff, firstFault_cons_iff, faultless_cons_iff, ih,
        and_or_left, or_assoc, and_assoc]
      rfl

/-- One list is read after another, where the second may be read with what was read of the first. -/
theorem firstFault_append_iff_bind {γ : Type} {x : Except ε β} {f : β → Except ε γ}
    (hl : ∀ e, FirstFault Fault l e ↔ x = .error e)
    (hm : ∀ b, x = .ok b →
      ∀ e, FirstFault (fun before => Fault (l ++ before)) m e ↔ f b = .error e) :
    FirstFault Fault (l ++ m) e ↔ x >>= f = .error e := by
  have hfaultless : Faultless Fault l ↔ ∃ b, x = .ok b := by
    rw [faultless_iff_forall_not_firstFault, exists_eq_ok_iff]
    exact forall_congr' fun e => not_congr (hl e)
  rw [firstFault_append_iff, bind_eq_error_iff, hl, hfaultless, ← exists_and_right]
  exact or_congr_right (exists_congr fun b => and_congr_right fun hb => hm b hb e)

theorem firstFault_map_iff {f : β → α} {l : List β} :
    FirstFault Fault (l.map f) e ↔
      FirstFault (fun before b => Fault (before.map f) (f b)) l e := by
  induction l generalizing Fault with
  | nil => exact ⟨fun h => absurd h not_firstFault_nil, fun h => absurd h not_firstFault_nil⟩
  | cons b rest ih =>
      rw [List.map_cons, firstFault_cons_iff, firstFault_cons_iff, ih]
      rfl

theorem faultless_map_iff {f : β → α} {l : List β} :
    Faultless Fault (l.map f) ↔ Faultless (fun before b => Fault (before.map f) (f b)) l := by
  simp only [faultless_iff_forall_not_firstFault, firstFault_map_iff]

/-- A list is refused with the error of the first member that is refused. -/
theorem mapM_eq_error_iff {f : α → Except ε β} :
    l.mapM f = .error e ↔ FirstFault (fun _ a e => f a = .error e) l e := by
  induction l with
  | nil => exact ⟨fun h => (by cases h), fun h => absurd h not_firstFault_nil⟩
  | cons a rest ih =>
      rw [List.mapM_cons, bind_eq_error_iff, firstFault_cons_iff, ← ih]
      refine or_congr_right ?_
      rw [← exists_eq_ok_iff, ← exists_and_right]
      exact exists_congr fun b => and_congr_right fun _ => bind_pure_eq_error_iff

end FirstFault

/-- A line declares the component. -/
def DeclaredIn (lines : List (List Char)) (i : ComponentId) : Prop :=
  ∃ line ∈ lines, ∃ d : Declaration, d.Spells line ∧ d.id = i

theorem declaredIn_cons_iff {d : Declaration} {line : List Char} (h : d.Spells line)
    {rest : List (List Char)} {i : ComponentId} :
    DeclaredIn (line :: rest) i ↔ d.id = i ∨ DeclaredIn rest i := by
  unfold DeclaredIn
  rw [List.exists_mem_cons_iff]
  refine or_congr_left ⟨?_, fun hi => ⟨d, h, hi⟩⟩
  rintro ⟨d', h', rfl⟩
  rw [h.unique h']

theorem declaredIn_iff_of_forall₂ {declared : List Declaration} {lines : List (List Char)}
    (h : List.Forall₂ Declaration.Spells declared lines) {i : ComponentId} :
    DeclaredIn lines i ↔ i ∈ declared.map Declaration.id := by
  induction h with
  | nil => simp [DeclaredIn]
  | cons hspells _ ih => rw [declaredIn_cons_iff hspells, ih, List.map_cons, List.mem_cons, eq_comm]

/-- Reading declarations that follow others: each line is judged by the identifiers that are known
when it is read. -/
theorem foldlM_readDeclaration_eq_error_iff {lines : List (List Char)}
    {earlier : List Declaration} {known : List (List Char) → ComponentId → Prop}
    (hknown : ∀ before i,
      known before i ↔ i ∈ earlier.map Declaration.id ∨ DeclaredIn before i) {e : ParseError} :
    lines.foldlM (fun earlier line => do return earlier ++ [← readDeclaration earlier line])
        earlier = .error e ↔
      FirstFault (fun before => DeclarationFault (known before)) lines e := by
  induction lines generalizing earlier known with
  | nil => exact ⟨fun h => (by cases h), fun h => absurd h not_firstFault_nil⟩
  | cons line rest ih =>
      have hnil : known [] = (· ∈ earlier.map Declaration.id) := by
        funext i
        simp [hknown, DeclaredIn]
      rw [List.foldlM_cons, firstFault_cons_iff, hnil]
      simp only [← readDeclaration_eq_error_iff]
      cases hread : readDeclaration earlier line with
      | error e' =>
          constructor
          · rintro ⟨⟩
            exact .inl rfl
          · rintro (⟨⟨⟩⟩ | ⟨hne, _⟩)
            · rfl
            · exact absurd rfl (hne e')
      | ok d =>
          have hspells : d.Spells line := (readDeclaration_eq_ok_iff.mp hread).1
          have hsnoc : ∀ before i, known (line :: before) i ↔
              i ∈ (earlier ++ [d]).map Declaration.id ∨ DeclaredIn before i := by
            intro before i
            rw [hknown, declaredIn_cons_iff hspells, List.map_append, List.mem_append, or_assoc,
              List.map_singleton, List.mem_singleton, eq_comm (a := i)]
          refine (ih hsnoc).trans ?_
          exact ⟨fun h => .inr ⟨fun _ => nofun, h⟩, fun h => (h.resolve_left nofun).2⟩

/-- The declarations are refused with the fault of the first line at fault. -/
theorem readDeclarations_eq_error_iff {lines : List (List Char)} {e : ParseError} :
    readDeclarations lines = .error e ↔
      FirstFault (fun before => DeclarationFault (DeclaredIn before)) lines e :=
  foldlM_readDeclaration_eq_error_iff fun before i => by simp

end CircuitDiagnosis.CircuitFile
