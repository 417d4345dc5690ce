import CircuitDiagnosis.Proofs.CircuitFile.Contents
import CircuitDiagnosis.Proofs.CircuitFile.Line
import CircuitDiagnosis.Proofs.CircuitFile.Section
import Mathlib.Data.List.Nodup

/-!
# Reading the lines of a section

Each step of the reader succeeds exactly on what the grammar says of its line, and gives what the
line spells: `readDeclaration_eq_ok_iff`, `readConnection_eq_ok_iff` and
`readOutputObservation_eq_ok_iff` for one line, `readDeclarations_eq_ok_iff` and
`mapM_eq_ok_iff_of_spells` for all lines of a section. So a text spells its contents in one way only
(`Contents.SpelledBy.unique`).
-/

namespace CircuitDiagnosis.CircuitFile

open Text

/-! ### Reading one line -/

theorem bind_eq_ok_iff {ε α β : Type} {x : Except ε α} {f : α → Except ε β} {b : β} :
    x >>= f = .ok b ↔ ∃ a, x = .ok a ∧ f a = .ok b := by
  cases x with
  | error e => exact ⟨fun h => (by cases h), fun ⟨_, h, _⟩ => (by cases h)⟩
  | ok a => exact ⟨fun h => ⟨a, rfl, h⟩, fun ⟨_, ha, h⟩ => (by cases ha; exact h)⟩

theorem exists_ok_of_map_toOption {ε α β : Type} {x : Except ε α} {f : α → β} {b : β}
    (h : x.toOption.map f = some b) : ∃ a, x = .ok a ∧ f a = b := by
  cases x with
  | error e => cases h
  | ok a => exact ⟨a, rfl, Option.some.inj h⟩

theorem ok_bind {ε α β : Type} (a : α) (f : α → Except ε β) : Except.ok a >>= f = f a := rfl

theorem isDeclared_iff {declared : List Declaration} {id : ComponentId} :
    isDeclared declared id = true ↔ id ∈ declared.map Declaration.id := by
  unfold isDeclared
  simp only [List.any_eq_true, beq_iff_eq, List.mem_map]

theorem gateKind?_eq_some_iff {word : String} {kind : GateKind} :
    gateKind? word = some kind ↔ word = gateWord kind := by
  constructor
  · intro h
    unfold gateKind? at h
    split at h <;> cases h <;> rfl
  · rintro rfl
    exact gateKind?_gateWord kind

theorem readValue_eq_ok_iff {text : String} {value : Bool} :
    readValue text = .ok value ↔ text = bit value := by
  constructor
  · intro h
    unfold readValue at h
    split at h <;> cases h <;> rfl
  · rintro rfl
    cases value <;> rfl

theorem readOutput?_bit (value : Bool) : readOutput? (bit value).toList = none := by
  cases value <;> decide

theorem readDeclaration_eq_ok_iff {earlier : List Declaration} {line : List Char}
    {d : Declaration} :
    readDeclaration earlier line = .ok d ↔
      d.Spells line ∧ d.id ∉ earlier.map Declaration.id := by
  rw [← isDeclared_iff]
  constructor
  · intro h
    unfold readDeclaration at h
    split at h
    · cases h
    · next gate hgate =>
      split at h
      · cases h
      · next kind hkind =>
        split at h
        · cases h
        · next hnew =>
          cases h
          refine ⟨?_, hnew⟩
          unfold Declaration.Spells
          rw [← gateKind?_eq_some_iff.mp hkind]
          exact GateLine.read?_eq_some_iff.mp hgate
  · rintro ⟨hspells, hnew⟩
    unfold readDeclaration
    rw [GateLine.read?_eq_some_iff.mpr hspells]
    simp only [gateKind?_gateWord, hnew]
    rfl

theorem readSource_eq_ok_iff {declared : List Declaration} {line : List Char} {value : String}
    {source : Source} :
    readSource declared line value = .ok source ↔
      source.Spells value.toList ∧
        ∀ i, source = .output i → i ∈ declared.map Declaration.id := by
  constructor
  · intro h
    unfold readSource at h
    split at h
    · next id hid =>
      split at h
      · next hdeclared =>
        cases h
        refine ⟨readOutput?_eq_some_iff.mp hid, ?_⟩
        rintro i ⟨⟩
        exact isDeclared_iff.mp hdeclared
      · cases h
    · cases hvalue : readValue value with
      | error e =>
          rw [hvalue] at h
          cases h
      | ok b =>
          rw [hvalue] at h
          cases h
          exact ⟨congrArg String.toList (readValue_eq_ok_iff.mp hvalue), fun i hi => (by cases hi)⟩
  · rintro ⟨hspells, hdeclared⟩
    unfold readSource
    cases source with
    | output id =>
        rw [readOutput?_eq_some_iff.mpr hspells]
        exact if_pos (isDeclared_iff.mpr (hdeclared id rfl))
    | constant b =>
        have hvalue : value = bit b := String.toList_inj.mp hspells
        rw [hvalue, readOutput?_bit]
        simp only [readValue_eq_ok_iff.mpr rfl]
        rfl

theorem readConnection_eq_ok_iff {declared : List Declaration} {line : List Char}
    {c : Connection} :
    readConnection declared line = .ok c ↔
      c.Spells line ∧ c.component ∈ declared.map Declaration.id ∧
        ∀ i, c.source = .output i → i ∈ declared.map Declaration.id := by
  constructor
  · intro h
    unfold readConnection at h
    split at h
    · cases h
    · next p hp =>
      obtain ⟨source, hsource, h⟩ := bind_eq_ok_iff.mp h
      obtain ⟨hspells, hdeclared⟩ := readSource_eq_ok_iff.mp hsource
      split at h
      · next htarget =>
        cases h
        exact ⟨⟨p.value, hspells, PinLine.read?_eq_some_iff.mp hp⟩, isDeclared_iff.mp htarget,
          hdeclared⟩
      · cases h
  · rintro ⟨⟨value, hspells, hline⟩, htarget, hdeclared⟩
    unfold readConnection
    rw [PinLine.read?_eq_some_iff.mpr hline]
    refine bind_eq_ok_iff.mpr ⟨_, readSource_eq_ok_iff.mpr ⟨hspells, hdeclared⟩, ?_⟩
    exact if_pos (isDeclared_iff.mpr htarget)

theorem readOutputObservation_eq_ok_iff {declared : List Declaration} {line : List Char}
    {o : Observation} :
    readOutputObservation declared line = .ok o ↔
      SpellsObservation o line ∧ ∀ i, o.signal = .output i → i ∈ declared.map Declaration.id := by
  constructor
  · intro h
    unfold readOutputObservation at h
    split at h
    · cases h
    · next p hp =>
      split at h
      · next hdeclared =>
        obtain ⟨value, hvalue, h⟩ := bind_eq_ok_iff.mp h
        cases h
        refine ⟨⟨p.component, rfl, ?_⟩, ?_⟩
        · rw [← readValue_eq_ok_iff.mp hvalue]
          exact OutputLine.read?_eq_some_iff.mp hp
        · rintro i ⟨⟩
          exact isDeclared_iff.mp hdeclared
      · cases h
  · rintro ⟨⟨id, hsignal, hline⟩, hdeclared⟩
    unfold readOutputObservation
    rw [OutputLine.read?_eq_some_iff.mpr hline]
    refine (if_pos (isDeclared_iff.mpr (hdeclared id hsignal))).trans ?_
    refine bind_eq_ok_iff.mpr ⟨o.value, readValue_eq_ok_iff.mpr rfl, ?_⟩
    rw [← hsignal]
    rfl

/-! ### Reading the lines of a section -/

theorem sectionLines_eq_ok_iff {s : Section} {source : List Char} {lines : List (List Char)} :
    sectionLines s source = .ok lines ↔
      ∃ body, s.Encloses source body ∧ lines = trimmedLines body := by
  unfold sectionLines
  constructor
  · intro h
    split at h
    · next body hbody =>
      cases h
      exact ⟨body, Section.body?_eq_some_iff.mp hbody, rfl⟩
    · cases h
  · rintro ⟨body, hbody, rfl⟩
    rw [Section.body?_eq_some_iff.mpr hbody]

theorem mapM_eq_ok_iff {ε α β : Type} {f : α → Except ε β} {l : List α} {m : List β} :
    l.mapM f = .ok m ↔ List.Forall₂ (fun b a => f a = .ok b) m l := by
  induction l generalizing m with
  | nil =>
      rw [List.mapM_nil]
      constructor
      · rintro ⟨⟩
        exact .nil
      · rintro ⟨⟩
        rfl
  | cons a rest ih =>
      rw [List.mapM_cons, bind_eq_ok_iff]
      constructor
      · rintro ⟨b, hb, h⟩
        obtain ⟨bs, hbs, h⟩ := bind_eq_ok_iff.mp h
        cases h
        exact .cons hb (ih.mp hbs)
      · rintro (_ | ⟨hb, hbs⟩)
        exact ⟨_, hb, bind_eq_ok_iff.mpr ⟨_, ih.mpr hbs, rfl⟩⟩

/-- Reading declarations that follow others: each line spells one, and no identifier is declared
twice. -/
theorem foldlM_readDeclaration_eq_ok_iff {lines : List (List Char)}
    {earlier declared : List Declaration} (hearlier : (earlier.map Declaration.id).Nodup) :
    lines.foldlM (fun earlier line => do return earlier ++ [← readDeclaration earlier line])
        earlier = .ok declared ↔
      ∃ new, declared = earlier ++ new ∧ List.Forall₂ Declaration.Spells new lines ∧
        (declared.map Declaration.id).Nodup := by
  induction lines generalizing earlier with
  | nil =>
      rw [List.foldlM_nil]
      constructor
      · rintro ⟨⟩
        exact ⟨[], (List.append_nil _).symm, .nil, hearlier⟩
      · rintro ⟨new, rfl, hspells, _⟩
        cases hspells
        rw [List.append_nil]
        rfl
  | cons line rest ih =>
      have hsnoc : ∀ d : Declaration, d.id ∉ earlier.map Declaration.id →
          ((earlier ++ [d]).map Declaration.id).Nodup := by
        intro d hd
        rw [List.map_append]
        exact hearlier.append (List.nodup_singleton _) (by simpa using hd)
      rw [List.foldlM_cons, bind_eq_ok_iff]
      constructor
      · rintro ⟨next, hnext, h⟩
        obtain ⟨d, hd, hnext⟩ := bind_eq_ok_iff.mp hnext
        cases hnext
        obtain ⟨hspells, hfresh⟩ := readDeclaration_eq_ok_iff.mp hd
        obtain ⟨new, rfl, hnew, hnodup⟩ := (ih (hsnoc d hfresh)).mp h
        exact ⟨d :: new, by simp, .cons hspells hnew, hnodup⟩
      · rintro ⟨_, rfl, _ | ⟨hspells, hnew⟩, hnodup⟩
        rename_i d new
        have hfresh : d.id ∉ earlier.map Declaration.id := by
          rw [List.map_append, List.map_cons] at hnodup
          exact fun hmem => List.disjoint_of_nodup_append hnodup hmem List.mem_cons_self
        refine ⟨earlier ++ [d], ?_, (ih (hsnoc d hfresh)).mpr ⟨new, by simp, hnew, hnodup⟩⟩
        exact bind_eq_ok_iff.mpr ⟨d, readDeclaration_eq_ok_iff.mpr ⟨hspells, hfresh⟩, rfl⟩

theorem readDeclarations_eq_ok_iff {lines : List (List Char)} {declared : List Declaration} :
    readDeclarations lines = .ok declared ↔
      List.Forall₂ Declaration.Spells declared lines ∧ (declared.map Declaration.id).Nodup := by
  have hnil : (([] : List Declaration).map Declaration.id).Nodup := List.nodup_nil
  refine (foldlM_readDeclaration_eq_ok_iff hnil).trans ?_
  simp only [List.nil_append, exists_eq_left']

/-- A list is read line by line if each line spells its part and the part passes its check. -/
theorem mapM_eq_ok_iff_of_spells {α : Type} {read : List Char → Except ParseError α}
    {Spells : α → List Char → Prop} {Fits : α → Prop}
    (hread : ∀ line a, read line = .ok a ↔ Spells a line ∧ Fits a) {lines : List (List Char)}
    {l : List α} :
    lines.mapM read = .ok l ↔ List.Forall₂ Spells l lines ∧ ∀ a ∈ l, Fits a := by
  rw [mapM_eq_ok_iff, and_comm, ← List.forall₂_and_left]
  simp only [hread, and_comm]

/-! ### What is spelled is determined -/

theorem bit_inj : ∀ {b b' : Bool}, bit b = bit b' → b = b' := by
  decide

theorem Declaration.Spells.unique {d d' : Declaration} {line : List Char} (h : d.Spells line)
    (h' : d'.Spells line) : d = d' := by
  have hread : ∀ d : Declaration, d.Spells line → readDeclaration [] line = .ok d :=
    fun d h => readDeclaration_eq_ok_iff.mpr ⟨h, List.not_mem_nil⟩
  exact Except.ok.inj ((hread d h).symm.trans (hread d' h'))

theorem Source.Spells.unique {s s' : Source} {text : List Char} (h : s.Spells text)
    (h' : s'.Spells text) : s = s' := by
  cases s with
  | output i =>
      cases s' with
      | output i' =>
          have hread := readOutput?_eq_some_iff.mpr h
          rw [readOutput?_eq_some_iff.mpr h'] at hread
          rw [Option.some.inj hread]
      | constant b =>
          have hread := readOutput?_eq_some_iff.mpr h
          rw [h', readOutput?_bit] at hread
          cases hread
  | constant b =>
      cases s' with
      | output i =>
          have hread := readOutput?_eq_some_iff.mpr h'
          rw [h, readOutput?_bit] at hread
          cases hread
      | constant b' => rw [bit_inj (String.toList_inj.mp (h.symm.trans h'))]

theorem Connection.Spells.unique {k k' : Connection} {line : List Char} (h : k.Spells line)
    (h' : k'.Spells line) : k = k' := by
  obtain ⟨value, hsource, hline⟩ := h
  obtain ⟨value', hsource', hline'⟩ := h'
  have hread := PinLine.read?_eq_some_iff.mpr hline
  rw [PinLine.read?_eq_some_iff.mpr hline'] at hread
  obtain ⟨hpin, hcomponent, rfl⟩ := PinLine.mk.inj (Option.some.inj hread)
  cases k
  cases k'
  cases hpin
  cases hcomponent
  cases hsource.unique hsource'
  rfl

theorem SpellsObservation.unique {o o' : Observation} {line : List Char}
    (h : SpellsObservation o line) (h' : SpellsObservation o' line) : o = o' := by
  obtain ⟨id, hsignal, hline⟩ := h
  obtain ⟨id', hsignal', hline'⟩ := h'
  have hread := OutputLine.read?_eq_some_iff.mpr hline
  rw [OutputLine.read?_eq_some_iff.mpr hline'] at hread
  obtain ⟨rfl, hvalue⟩ := OutputLine.mk.inj (Option.some.inj hread)
  cases o
  cases o'
  cases hsignal.trans hsignal'.symm
  cases bit_inj hvalue
  rfl

/-- A text spells its contents in one way only. -/
theorem Contents.SpelledBy.unique {c c' : Contents} {source : List Char} (h : c.SpelledBy source)
    (h' : c'.SpelledBy source) : c = c' := by
  obtain ⟨components, hcomponents, hdeclared⟩ := h.declared
  obtain ⟨behaviour, observations, hbehaviour, hobservations, hconnections⟩ := h.connections
  obtain ⟨outputs, houtputs, hobserved⟩ := h.outputs
  obtain ⟨_, hcomponents', hdeclared'⟩ := h'.declared
  obtain ⟨_, _, hbehaviour', hobservations', hconnections'⟩ := h'.connections
  obtain ⟨_, houtputs', hobserved'⟩ := h'.outputs
  rw [hcomponents'.unique hcomponents] at hdeclared'
  rw [hbehaviour'.unique hbehaviour, hobservations'.unique hobservations] at hconnections'
  rw [houtputs'.unique houtputs] at hobserved'
  cases c
  cases c'
  congr 1
  · exact List.left_unique_forall₂' (fun _ _ _ h h' => h.unique h') hdeclared hdeclared'
  · exact List.left_unique_forall₂' (fun _ _ _ h h' => h.unique h') hconnections hconnections'
  · exact List.left_unique_forall₂' (fun _ _ _ h h' => h.unique h') hobserved hobserved'

end CircuitDiagnosis.CircuitFile
