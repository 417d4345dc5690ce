import CircuitDiagnosis.Text.WordCharacter

/-!
# Sections of a circuit file

A section is opened by its name and a colon, where no word character stands before the name, and
closed by the first later `END` with the name that is a word of its own. Its body is the text in
between. What lies outside of the sections does not matter.
-/

namespace CircuitDiagnosis.CircuitFile

/-- The sections of a circuit file. -/
inductive Section where
  | components
  | behaviour
  | observations
  | outObservations
  deriving DecidableEq, Repr

namespace Section

/-- The name of a section. -/
def name : Section → String
  | .components => "COMPONENTS"
  | .behaviour => "BEHAVIOUR"
  | .observations => "OBSERVATIONS"
  | .outObservations => "OUTOBSERVATIONS"

/-- The text that opens a section. -/
def header (s : Section) : List Char := s.name.toList ++ [':']

/-- The text that closes a section. -/
def footer (s : Section) : List Char := "END".toList ++ s.name.toList

end Section

/-- Whether a word may start after this character, or at the start of the text. -/
def opensWord (before : Option Char) : Bool := before.all fun c => !Text.isWord c

/-- Whether a word may end before this text. -/
def closesWord (after : List Char) : Bool := after.head?.all fun c => !Text.isWord c

/-- What follows a marker at the start of a text. -/
def afterMarker? : (marker text : List Char) → Option (List Char)
  | [], text => some text
  | _ :: _, [] => none
  | m :: marker, c :: text => if m = c then afterMarker? marker text else none

theorem afterMarker?_eq_some_iff {marker text after : List Char} :
    afterMarker? marker text = some after ↔ text = marker ++ after := by
  induction marker generalizing text with
  | nil => simp [afterMarker?]
  | cons m marker ih =>
    cases text with
    | nil => simp [afterMarker?]
    | cons c text =>
      by_cases h : m = c
      · subst h; simp [afterMarker?, ih]
      · simp [afterMarker?, h, Ne.symm h]

/-- The texts before and after the first place where `marker` stands, where no word character
stands before it and `accepts` holds of what follows it. The text that was passed is given
reversed. -/
def cutFrom (marker : List Char) (accepts : List Char → Bool) (passed : List Char) :
    List Char → Option (List Char × List Char)
  | [] => none
  | c :: rest =>
    match afterMarker? marker (c :: rest) with
    | some after =>
      if opensWord passed.head? && accepts after then some (passed.reverse, after)
      else cutFrom marker accepts (c :: passed) rest
    | none => cutFrom marker accepts (c :: passed) rest

/-- The texts before and after the first place of a marker. -/
def cut? (marker : List Char) (accepts : List Char → Bool) (text : List Char) :
    Option (List Char × List Char) :=
  cutFrom marker accepts [] text

/-- The body of a section of a circuit file, if the file has the section. -/
def Section.body? (s : Section) (source : List Char) : Option (List Char) := do
  let (_, opened) ← cut? s.header (fun _ => true) source
  let (body, _) ← cut? s.footer closesWord opened
  return body

end CircuitDiagnosis.CircuitFile
