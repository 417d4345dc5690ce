import CircuitDiagnosis.Proofs.CircuitFile.Line
import Mathlib.Data.Set.Subsingleton

/-!
# The parts of a line

A line of a circuit file as its parts, one behind the other: a name, an identifier in parentheses
(`Applied`), and for a value also an equals sign with the blanks on both sides of it (`Assigned`).
The readers accept exactly the texts that have such parts (`GateLine.read?_iff_applied` and its
kin).

Identifiers and values may hold equals signs, digits and quotes, and still no text has two different
readings (`line_readers_exact`). A reader finds one kind, one identifier and one value at most, and
these leave no choice for the blanks, because an equals sign is none (`Assigned.blanks_unique`).
-/

namespace CircuitDiagnosis.CircuitFile

open Text

/-- The text is a name with an identifier in parentheses behind it. -/
structure Applied (name id text : String) : Prop where
  identifier : IsIdentifier id.toList
  text_eq : text = name ++ "(" ++ id ++ ")"

/-- The text is a name with an identifier in parentheses behind it, an equals sign between two runs
of blanks, and a value. -/
structure Assigned (name id before after value text : String) : Prop where
  identifier : IsIdentifier id.toList
  blanks_before : IsBlanks before.toList
  blanks_after : IsBlanks after.toList
  isValue : IsValue value.toList
  text_eq : text = name ++ "(" ++ id ++ ")" ++ before ++ "=" ++ after ++ value

/-- The name of a pin. -/
def Pin.name (pin : Pin) : String := "IN" ++ pin.digit.toString

variable {name id value text : String}

/-! ### What the readers accept -/

theorem applied_iff :
    Applied name id text ↔
      ∃ arg, SpellsParenthesised id.toList arg ∧ text.toList = name.toList ++ arg := by
  constructor
  · rintro ⟨hid, rfl⟩
    exact ⟨_, ⟨hid, rfl⟩, by simp [String.toList_append]⟩
  · rintro ⟨_, ⟨hid, rfl⟩, htext⟩
    refine ⟨hid, String.toList_inj.mp ?_⟩
    rw [htext]
    simp [String.toList_append]

theorem exists_assigned_iff :
    (∃ before after, Assigned name id before after value text) ↔
      ∃ arg rest, SpellsParenthesised id.toList arg ∧ SpellsAssigned value.toList rest ∧
        text.toList = name.toList ++ (arg ++ rest) := by
  constructor
  · rintro ⟨before, after, hid, hbefore, hafter, hvalue, rfl⟩
    refine ⟨_, _, ⟨hid, rfl⟩, ⟨before.toList, after.toList, hbefore, hafter, hvalue, rfl⟩, ?_⟩
    simp [String.toList_append]
  · rintro ⟨_, _, ⟨hid, rfl⟩, ⟨s, t, hs, ht, hvalue, rfl⟩, htext⟩
    refine ⟨.ofList s, .ofList t, hid, ?_, ?_, hvalue, String.toList_inj.mp ?_⟩
    · rw [String.toList_ofList]
      exact hs
    · rw [String.toList_ofList]
      exact ht
    · rw [htext]
      simp [String.toList_append]

theorem GateLine.read?_iff_applied {kind : String} :
    GateLine.read? text.toList = some ⟨kind, id⟩ ↔ IsWord kind.toList ∧ Applied kind id text := by
  rw [GateLine.read?_eq_some_iff, applied_iff]
  exact Iff.rfl

theorem PinLine.read?_iff_assigned {pin : Pin} :
    PinLine.read? text.toList = some ⟨pin, id, value⟩ ↔
      ∃ before after, Assigned pin.name id before after value text := by
  rw [PinLine.read?_eq_some_iff, exists_assigned_iff]
  cases pin <;> exact Iff.rfl

theorem OutputLine.read?_iff_assigned :
    OutputLine.read? text.toList = some ⟨id, value⟩ ↔
      ∃ before after, Assigned "OUT" id before after value text := by
  rw [OutputLine.read?_eq_some_iff, exists_assigned_iff]
  exact Iff.rfl

theorem readOutput?_iff_applied : readOutput? text.toList = some id ↔ Applied "OUT" id text := by
  rw [readOutput?_eq_some_iff, applied_iff]
  exact Iff.rfl

/-! ### The blanks -/

/-- The blanks around the sign are told from the other parts. -/
theorem Assigned.blanks_unique {s t s' t' : String} (h : Assigned name id s t value text)
    (h' : Assigned name id s' t' value text) : s = s' ∧ t = t' := by
  have hparts : s.toList ++ '=' :: (t.toList ++ value.toList) =
      s'.toList ++ '=' :: (t'.toList ++ value.toList) := by
    have htext := congrArg String.toList (h.text_eq.symm.trans h'.text_eq)
    simpa [String.toList_append] using htext
  obtain ⟨hbefore, hrest⟩ :=
    run_append_inj isBlank_equals h.blanks_before h'.blanks_before hparts
  exact ⟨String.toList_inj.mp hbefore, String.toList_inj.mp (List.append_cancel_right hrest)⟩

/-- **Each reader of a line accepts exactly its grammar, and no text has two readings.** A gate line
is a word with an identifier in parentheses behind it; the line of a pin is `IN1` or `IN2` with an
identifier in parentheses behind it, an equals sign between blanks, and a value; the line of an
output has `OUT` for its name, and the output itself has no value behind it. -/
theorem line_readers_exact (text : String) :
    (∀ kind id, GateLine.read? text.toList = some ⟨kind, id⟩ ↔
        IsWord kind.toList ∧ Applied kind id text) ∧
      (∀ pin id value, PinLine.read? text.toList = some ⟨pin, id, value⟩ ↔
        ∃ before after, Assigned pin.name id before after value text) ∧
      (∀ id value, OutputLine.read? text.toList = some ⟨id, value⟩ ↔
        ∃ before after, Assigned "OUT" id before after value text) ∧
      (∀ id, readOutput? text.toList = some id ↔ Applied "OUT" id text) ∧
      {(kind, id) : String × String | IsWord kind.toList ∧ Applied kind id text}.Subsingleton ∧
      {(pin, id, before, after, value) : Pin × String × String × String × String |
        Assigned pin.name id before after value text}.Subsingleton ∧
      {(id, before, after, value) : String × String × String × String |
        Assigned "OUT" id before after value text}.Subsingleton ∧
      {id : String | Applied "OUT" id text}.Subsingleton := by
  refine ⟨fun _ _ => GateLine.read?_iff_applied, fun _ _ _ => PinLine.read?_iff_assigned,
    fun _ _ => OutputLine.read?_iff_assigned, fun _ => readOutput?_iff_applied, ?_, ?_, ?_, ?_⟩
  · rintro ⟨kind, id⟩ h ⟨kind', id'⟩ h'
    have hread := GateLine.read?_iff_applied.mpr h
    rw [GateLine.read?_iff_applied.mpr h'] at hread
    cases hread
    rfl
  · rintro ⟨pin, id, s, t, value⟩ h ⟨pin', id', s', t', value'⟩ h'
    have hread := PinLine.read?_iff_assigned.mpr ⟨s, t, h⟩
    rw [PinLine.read?_iff_assigned.mpr ⟨s', t', h'⟩] at hread
    cases hread
    obtain ⟨rfl, rfl⟩ := Assigned.blanks_unique h h'
    rfl
  · rintro ⟨id, s, t, value⟩ h ⟨id', s', t', value'⟩ h'
    have hread := OutputLine.read?_iff_assigned.mpr ⟨s, t, h⟩
    rw [OutputLine.read?_iff_assigned.mpr ⟨s', t', h'⟩] at hread
    cases hread
    obtain ⟨rfl, rfl⟩ := Assigned.blanks_unique h h'
    rfl
  · intro id h id' h'
    have hread := readOutput?_iff_applied.mpr h
    rw [readOutput?_iff_applied.mpr h'] at hread
    cases hread
    rfl

example :
    PinLine.read? "IN2(=\"1\")\u2003==OUT(A)".toList = some ⟨.second, "=\"1\"", "=OUT(A)"⟩ := by
  decide

end CircuitDiagnosis.CircuitFile
