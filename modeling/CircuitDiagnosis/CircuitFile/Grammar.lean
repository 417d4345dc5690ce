import CircuitDiagnosis.CircuitFile.Line

/-!
# The grammar of the lines

Which texts spell a line, said by concatenation and not by reading from the left.
-/

namespace CircuitDiagnosis.CircuitFile

/-- A non-empty run of word characters. -/
def IsWord (w : List Char) : Prop := w ≠ [] ∧ ∀ c ∈ w, Text.isWord c = true

/-- A non-empty run of characters other than parentheses and blanks. -/
def IsIdentifier (id : List Char) : Prop := id ≠ [] ∧ ∀ c ∈ id, isIdentifier c = true

/-- A run of blanks, possibly empty. -/
def IsBlanks (s : List Char) : Prop := ∀ c ∈ s, Text.isBlank c = true

/-- A non-empty run of characters other than blanks. -/
def IsValue (v : List Char) : Prop := v ≠ [] ∧ ∀ c ∈ v, Text.isBlank c = false

/-- The text is an identifier in parentheses. -/
def SpellsParenthesised (id text : List Char) : Prop :=
  IsIdentifier id ∧ text = '(' :: id ++ [')']

/-- The text is an equals sign and a value, with blanks around the sign. -/
def SpellsAssigned (value text : List Char) : Prop :=
  ∃ s t, IsBlanks s ∧ IsBlanks t ∧ IsValue value ∧ text = s ++ '=' :: t ++ value

/-- The text is `KIND(id)`. -/
def GateLine.Spells (g : GateLine) (text : List Char) : Prop :=
  IsWord g.kind.toList ∧
    ∃ arg, SpellsParenthesised g.id.toList arg ∧ text = g.kind.toList ++ arg

/-- The text is `IN1(id) = value` or `IN2(id) = value`. -/
def PinLine.Spells (p : PinLine) (text : List Char) : Prop :=
  ∃ arg rest, SpellsParenthesised p.component.toList arg ∧ SpellsAssigned p.value.toList rest ∧
    text = 'I' :: 'N' :: p.pin.digit :: arg ++ rest

/-- The text is `OUT(id) = value`. -/
def OutputLine.Spells (o : OutputLine) (text : List Char) : Prop :=
  ∃ arg rest, SpellsParenthesised o.component.toList arg ∧ SpellsAssigned o.value.toList rest ∧
    text = 'O' :: 'U' :: 'T' :: arg ++ rest

/-- The text is `OUT(id)`. -/
def SpellsOutput (id : String) (text : List Char) : Prop :=
  ∃ arg, SpellsParenthesised id.toList arg ∧ text = 'O' :: 'U' :: 'T' :: arg

end CircuitDiagnosis.CircuitFile
