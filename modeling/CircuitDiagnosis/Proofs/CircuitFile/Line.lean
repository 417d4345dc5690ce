import CircuitDiagnosis.CircuitFile.Grammar
import CircuitDiagnosis.Proofs.Text.Line

/-!
# Reading lines

Each reader of a line finds exactly what the line spells (`GateLine.read?_eq_some_iff`,
`PinLine.read?_eq_some_iff`, `OutputLine.read?_eq_some_iff`, `readOutput?_eq_some_iff`). The grammar
says what a line spells by concatenation, and a line spells at most one thing, since the character
that follows a run never belongs to it.
-/

namespace CircuitDiagnosis.CircuitFile

open Text

/-! ### The parts of a line -/

theorem isWord_openParen : isWord '(' = false := by decide

theorem isIdentifier_closeParen : isIdentifier ')' = false := by decide

theorem isBlank_equals : isBlank '=' = false := by decide

theorem readParenthesised_eq_some_iff {text id after : List Char} :
    readParenthesised text = some (id, after) ↔
      IsIdentifier id ∧ text = '(' :: id ++ ')' :: after := by
  constructor
  · intro h
    unfold readParenthesised at h
    split at h
    · next rest =>
      split at h
      · cases h
      · next after' hdrop hne =>
        obtain ⟨hrest, hid, _⟩ := takeWhile_dropWhile_iff.mp ⟨rfl, hdrop⟩
        cases h
        exact ⟨⟨hne, hid⟩, congrArg ('(' :: ·) hrest⟩
      · cases h
    · cases h
  · rintro ⟨⟨hne, hid⟩, rfl⟩
    have hstop : ∀ c, (')' :: after).head? = some c → isIdentifier c = false := by
      rintro c ⟨⟩
      exact isIdentifier_closeParen
    obtain ⟨htake, hdrop⟩ := takeWhile_dropWhile_iff.mpr ⟨rfl, hid, hstop⟩
    unfold readParenthesised
    simp only [List.cons_append]
    rw [htake, hdrop]
    cases id with
    | nil => exact absurd rfl hne
    | cons c rest => rfl

theorem readAssigned_eq_some_iff {text value : List Char} :
    readAssigned text = some value ↔ SpellsAssigned value text := by
  constructor
  · intro h
    unfold readAssigned at h
    split at h
    · next rest hdrop =>
      obtain ⟨htext, hs, _⟩ := takeWhile_dropWhile_iff.mp ⟨rfl, hdrop⟩
      obtain ⟨hrest, ht, _⟩ := takeWhile_dropWhile_iff (p := isBlank) (l := rest).mp ⟨rfl, rfl⟩
      simp only at h
      split at h
      · cases h
      · next hvalue =>
        rw [Bool.or_eq_true, not_or, List.isEmpty_iff, List.any_eq_true] at hvalue
        obtain ⟨hne, hblank⟩ := hvalue
        cases h
        refine ⟨_, _, hs, ht, ⟨hne, fun c hc => ?_⟩, ?_⟩
        · exact Bool.eq_false_iff.mpr fun hb => hblank ⟨c, hc, hb⟩
        · rw [List.append_assoc, List.cons_append, ← hrest]
          exact htext
    · cases h
  · rintro ⟨s, t, hs, ht, ⟨hne, hvalue⟩, rfl⟩
    have hequals : ∀ c, ('=' :: (t ++ value)).head? = some c → isBlank c = false := by
      rintro c ⟨⟩
      exact isBlank_equals
    have hstop : ∀ c, value.head? = some c → isBlank c = false :=
      fun c hc => hvalue c (List.mem_of_mem_head? hc)
    have hnone : value.any isBlank = false := List.any_eq_false.mpr fun c hc => by
      simp [hvalue c hc]
    unfold readAssigned
    rw [List.append_assoc, List.cons_append, (takeWhile_dropWhile_iff.mpr ⟨rfl, hs, hequals⟩).2]
    simp only
    rw [(takeWhile_dropWhile_iff.mpr ⟨rfl, ht, hstop⟩).2, hnone, Bool.or_false,
      List.isEmpty_eq_false_iff.mpr hne]
    rfl

/-! ### The lines -/

theorem GateLine.read?_eq_some_iff {line : List Char} {g : GateLine} :
    GateLine.read? line = some g ↔ g.Spells line := by
  constructor
  · intro h
    unfold GateLine.read? at h
    split at h
    · cases h
    · next hne =>
      split at h
      · next id hid =>
        obtain ⟨hline, hkind, _⟩ := takeWhile_dropWhile_iff (p := isWord) (l := line).mp ⟨rfl, rfl⟩
        obtain ⟨hidentifier, harg⟩ := readParenthesised_eq_some_iff.mp hid
        cases h
        unfold GateLine.Spells
        rw [String.toList_ofList, String.toList_ofList]
        refine ⟨⟨hne, hkind⟩, _, ⟨hidentifier, rfl⟩, ?_⟩
        rw [← harg]
        exact hline
      · cases h
  · rintro ⟨⟨hne, hkind⟩, arg, ⟨hid, rfl⟩, rfl⟩
    have hstop : ∀ c, ('(' :: g.id.toList ++ [')']).head? = some c → isWord c = false := by
      rintro c ⟨⟩
      exact isWord_openParen
    obtain ⟨htake, hdrop⟩ := takeWhile_dropWhile_iff.mpr ⟨rfl, hkind, hstop⟩
    unfold GateLine.read?
    rw [htake, hdrop, readParenthesised_eq_some_iff.mpr ⟨hid, rfl⟩]
    split
    · next hnil => exact absurd hnil hne
    · simp only [String.ofList_toList]

/-- Reading `(id) = value` part by part. -/
theorem exists_readParenthesised_readAssigned_iff {id value text : List Char} :
    (∃ after, readParenthesised text = some (id, after) ∧ readAssigned after = some value) ↔
      ∃ arg rest, SpellsParenthesised id arg ∧ SpellsAssigned value rest ∧ text = arg ++ rest := by
  simp only [readParenthesised_eq_some_iff, readAssigned_eq_some_iff]
  constructor
  · rintro ⟨after, ⟨hid, rfl⟩, hvalue⟩
    exact ⟨_, after, ⟨hid, rfl⟩, hvalue, by simp⟩
  · rintro ⟨_, after, ⟨hid, rfl⟩, hvalue, rfl⟩
    exact ⟨after, ⟨hid, by simp⟩, hvalue⟩

theorem PinLine.readAt_eq_some_iff {pin : Pin} {text : List Char} {p : PinLine} :
    PinLine.readAt pin text = some p ↔
      p.pin = pin ∧ ∃ arg rest, SpellsParenthesised p.component.toList arg ∧
        SpellsAssigned p.value.toList rest ∧ text = arg ++ rest := by
  rw [← exists_readParenthesised_readAssigned_iff]
  unfold PinLine.readAt
  simp only [Option.bind_eq_bind, Option.bind_eq_some_iff, Prod.exists]
  constructor
  · rintro ⟨id, after, hid, value, hvalue, ⟨⟩⟩
    refine ⟨rfl, after, ?_⟩
    rw [String.toList_ofList, String.toList_ofList]
    exact ⟨hid, hvalue⟩
  · rintro ⟨rfl, after, hid, hvalue⟩
    refine ⟨_, after, hid, _, hvalue, ?_⟩
    rw [String.ofList_toList, String.ofList_toList]
    rfl

theorem PinLine.read?_eq_some_iff {line : List Char} {p : PinLine} :
    PinLine.read? line = some p ↔ p.Spells line := by
  constructor
  · intro h
    unfold PinLine.read? at h
    split at h
    · obtain ⟨hpin, arg, rest, harg, hrest, rfl⟩ := PinLine.readAt_eq_some_iff.mp h
      refine ⟨arg, rest, harg, hrest, ?_⟩
      rw [hpin]
      rfl
    · obtain ⟨hpin, arg, rest, harg, hrest, rfl⟩ := PinLine.readAt_eq_some_iff.mp h
      refine ⟨arg, rest, harg, hrest, ?_⟩
      rw [hpin]
      rfl
    · cases h
  · rintro ⟨arg, rest, harg, hrest, rfl⟩
    have hread : PinLine.readAt p.pin (arg ++ rest) = some p :=
      PinLine.readAt_eq_some_iff.mpr ⟨rfl, arg, rest, harg, hrest, rfl⟩
    rw [← hread]
    cases p.pin <;> rfl

theorem OutputLine.read?_eq_some_iff {line : List Char} {o : OutputLine} :
    OutputLine.read? line = some o ↔ o.Spells line := by
  constructor
  · intro h
    unfold OutputLine.read? at h
    split at h
    · simp only [Option.bind_eq_bind, Option.bind_eq_some_iff, Prod.exists] at h
      obtain ⟨id, after, hid, value, hvalue, ⟨⟩⟩ := h
      obtain ⟨arg, rest, harg, hrest, rfl⟩ :=
        exists_readParenthesised_readAssigned_iff.mp ⟨after, hid, hvalue⟩
      unfold OutputLine.Spells
      rw [String.toList_ofList, String.toList_ofList]
      exact ⟨arg, rest, harg, hrest, rfl⟩
    · cases h
  · rintro ⟨arg, rest, harg, hrest, rfl⟩
    obtain ⟨after, hid, hvalue⟩ :=
      exists_readParenthesised_readAssigned_iff.mpr ⟨arg, rest, harg, hrest, rfl⟩
    simp only [OutputLine.read?, List.cons_append, hid, hvalue, Option.bind_eq_bind,
      Option.bind_some, String.ofList_toList]
    rfl

theorem readOutput?_eq_some_iff {value : List Char} {id : String} :
    readOutput? value = some id ↔ SpellsOutput id value := by
  constructor
  · intro h
    unfold readOutput? at h
    split at h
    · split at h
      · next id hid =>
        obtain ⟨hidentifier, rfl⟩ := readParenthesised_eq_some_iff.mp hid
        cases h
        unfold SpellsOutput
        rw [String.toList_ofList]
        exact ⟨_, ⟨hidentifier, rfl⟩, rfl⟩
      · cases h
    · cases h
  · rintro ⟨arg, ⟨hid, rfl⟩, rfl⟩
    have hread : readParenthesised ('(' :: id.toList ++ [')']) = some (id.toList, []) :=
      readParenthesised_eq_some_iff.mpr ⟨hid, rfl⟩
    simp only [readOutput?, hread, String.ofList_toList]

end CircuitDiagnosis.CircuitFile
