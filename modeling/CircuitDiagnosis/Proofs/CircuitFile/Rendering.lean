import CircuitDiagnosis.Proofs.CircuitFile.Layout
import CircuitDiagnosis.Proofs.CircuitFile.WellFormed

/-!
# Written lines

The lines of a circuit spell its components, its wiring and its observations (`spells_gateLine`,
`Connection.spells_line`, `spells_observationLine`), and they are plain if the identifiers in them
are (`isPlain_gateLine`, `Connection.isPlain_line`, `isPlain_observationLine`).

A wiring and an observed input are both written as the line of a connection (`Connection.line`).
-/

namespace CircuitDiagnosis.CircuitFile

open Text

/-! ### Names and lines -/

/-- The identifier can be written, and no word of a marker stands in it. -/
structure IsName (i : ComponentId) : Prop where
  identifier : IsIdentifier i.toList
  no_words : ∀ w ∈ sectionWords, ¬ w.toList <:+: i.toList

theorem IsName.isPlain {i : ComponentId} (h : IsName i) : IsPlain i.toList := by
  refine ⟨fun c hc => ?_, h.no_words⟩
  have hc := h.identifier.2 c hc
  unfold isIdentifier at hc
  rw [Bool.and_eq_true, Bool.not_eq_true'] at hc
  exact hc.2

/-- The text of what an input is connected to. -/
def Source.text : Source → String
  | .output i => (Signal.output i).text
  | .constant value => bit value

/-- The line of a connection. -/
def Connection.line (k : Connection) : String := k.pin.inputName k.component ++ "=" ++ k.source.text

theorem toList_gateLine (c : Component) :
    (gateLine c).toList = (gateWord c.kind).toList ++ '(' :: (c.id.toList ++ ')' :: []) := by
  unfold gateLine
  simp [String.toList_append]

theorem toList_output_text (i : ComponentId) :
    (Signal.output i).text.toList = ['O', 'U', 'T'] ++ '(' :: (i.toList ++ ')' :: []) := by
  unfold Signal.text
  simp [String.toList_append]

theorem Connection.toList_line (k : Connection) :
    k.line.toList = ['I', 'N', k.pin.digit] ++
      '(' :: (k.component.toList ++ ')' :: '=' :: k.source.text.toList) := by
  unfold Connection.line
  simp [String.toList_append, toList_inputName]

theorem toList_observationLine {o : Observation} {i : ComponentId} (h : o.signal = .output i) :
    (observationLine o).toList =
      ['O', 'U', 'T'] ++ '(' :: (i.toList ++ ')' :: '=' :: (bit o.value).toList) := by
  unfold observationLine
  rw [h, String.toList_append, String.toList_append, toList_output_text]
  simp

/-! ### The lines are plain -/

theorem isPlain_gateWord (kind : GateKind) : IsPlain (gateWord kind).toList := by
  cases kind <;> exact isPlain_of_all (by decide) (by decide +kernel)

theorem isPlain_pin (pin : Pin) : IsPlain ['I', 'N', pin.digit] := by
  cases pin <;> exact isPlain_of_all (by decide) (by decide +kernel)

theorem isPlain_bit (value : Bool) : IsPlain ('=' :: (bit value).toList) := by
  cases value <;> exact isPlain_of_all (by decide) (by decide +kernel)

theorem isPlain_nil : IsPlain [] := isPlain_of_all rfl (by decide +kernel)

theorem isPlain_gateLine {c : Component} (h : IsName c.id) : IsPlain (gateLine c).toList := by
  rw [toList_gateLine]
  exact (isPlain_gateWord c.kind).parenthesised h.isPlain isPlain_nil

theorem isPlain_source {source : Source} (h : ∀ i, source = .output i → IsName i) :
    IsPlain ('=' :: source.text.toList) := by
  cases source with
  | output i =>
      unfold Source.text
      rw [toList_output_text]
      have hout : IsPlain ['=', 'O', 'U', 'T'] := isPlain_of_all (by decide) (by decide +kernel)
      exact hout.parenthesised (h i rfl).isPlain isPlain_nil
  | constant value => exact isPlain_bit value

theorem Connection.isPlain_line {k : Connection} (h : IsName k.component)
    (hsource : ∀ i, k.source = .output i → IsName i) : IsPlain k.line.toList := by
  rw [k.toList_line]
  exact (isPlain_pin k.pin).parenthesised h.isPlain (isPlain_source hsource)

theorem isPlain_observationLine {o : Observation} {i : ComponentId} (h : IsName i)
    (hsignal : o.signal = .output i) : IsPlain (observationLine o).toList := by
  have hout : IsPlain ['O', 'U', 'T'] := isPlain_of_all (by decide) (by decide +kernel)
  rw [toList_observationLine hsignal]
  exact hout.parenthesised h.isPlain (isPlain_bit o.value)

/-! ### What the lines spell -/

theorem spellsAssigned_of_isPlain {value : List Char} (hne : value ≠ [])
    (h : IsPlain ('=' :: value)) : SpellsAssigned value ('=' :: value) :=
  ⟨[], [], fun _ hc => (by cases hc), fun _ hc => (by cases hc),
    ⟨hne, fun c hc => h.no_blanks c (List.mem_cons_of_mem _ hc)⟩, rfl⟩

theorem isWord_gateWord (kind : GateKind) : IsWord (gateWord kind).toList := by
  cases kind <;> exact ⟨by decide, List.all_eq_true.mp (by decide)⟩

theorem spells_gateLine {c : Component} (h : IsName c.id) :
    (Declaration.ofComponent c).Spells (gateLine c).toList := by
  rw [toList_gateLine]
  exact ⟨isWord_gateWord c.kind, _, ⟨h.identifier, rfl⟩, rfl⟩

theorem toList_bit_ne_nil (value : Bool) : (bit value).toList ≠ [] := by
  cases value <;> decide

theorem Source.toList_text_ne_nil (source : Source) : source.text.toList ≠ [] := by
  cases source with
  | output i =>
      unfold Source.text
      rw [toList_output_text]
      exact List.cons_ne_nil _ _
  | constant value => exact toList_bit_ne_nil value

theorem Source.spells_text {source : Source} (h : ∀ i, source = .output i → IsName i) :
    source.Spells source.text.toList := by
  cases source with
  | output i =>
      unfold Source.text
      rw [toList_output_text]
      exact ⟨_, ⟨(h i rfl).identifier, rfl⟩, rfl⟩
  | constant value => rfl

theorem Connection.spells_line {k : Connection} (h : IsName k.component)
    (hsource : ∀ i, k.source = .output i → IsName i) : k.Spells k.line.toList := by
  refine ⟨k.source.text, Source.spells_text hsource, _, _, ⟨h.identifier, rfl⟩,
    spellsAssigned_of_isPlain k.source.toList_text_ne_nil (isPlain_source hsource), ?_⟩
  rw [k.toList_line]
  simp

theorem spells_observationLine {o : Observation} {i : ComponentId} (h : IsName i)
    (hsignal : o.signal = .output i) : SpellsObservation o (observationLine o).toList := by
  refine ⟨i, hsignal, _, _, ⟨h.identifier, rfl⟩,
    spellsAssigned_of_isPlain (toList_bit_ne_nil o.value) (isPlain_bit o.value), ?_⟩
  rw [toList_observationLine hsignal]
  simp

end CircuitDiagnosis.CircuitFile
