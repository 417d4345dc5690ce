import CircuitDiagnosis.Text.Line
import CircuitDiagnosis.Text.WordCharacter

/-!
# Lines of a circuit file

The shapes of the lines in the sections of a circuit file:

* `KIND(id)` declares a component,
* `IN1(id) = value` and `IN2(id) = value` connect an input of a component,
* `OUT(id) = value` observes the output of a component,
* a value `OUT(id)` names the output of a component.

Blanks are allowed around the equals sign and nowhere else. An identifier is a non-empty run of
characters other than parentheses and blanks, a value one of characters other than blanks.
-/

namespace CircuitDiagnosis.CircuitFile

/-- Whether a character may stand in an identifier. -/
def isIdentifier (c : Char) : Bool := c != '(' && c != ')' && !Text.isBlank c

/-- Reads `(id)` at the start of a text: the identifier and what follows. -/
def readParenthesised : List Char → Option (List Char × List Char)
  | '(' :: rest =>
    match rest.takeWhile isIdentifier, rest.dropWhile isIdentifier with
    | [], _ => none
    | id, ')' :: after => some (id, after)
    | _, _ => none
  | _ => none

/-- Reads an equals sign and a value, which fill the text. -/
def readAssigned (text : List Char) : Option (List Char) :=
  match text.dropWhile Text.isBlank with
  | '=' :: rest =>
    let value := rest.dropWhile Text.isBlank
    if value.isEmpty || value.any Text.isBlank then none else some value
  | _ => none

/-- An input of a component. -/
inductive Pin where
  | first
  | second
  deriving DecidableEq, Repr, Inhabited

/-- The digit of a pin. -/
def Pin.digit : Pin → Char
  | .first => '1'
  | .second => '2'

/-- The name of the circuit input at a pin that no component drives. -/
def Pin.inputName (pin : Pin) (component : String) : String :=
  "IN" ++ pin.digit.toString ++ "(" ++ component ++ ")"

/-- A line that declares a component. -/
structure GateLine where
  kind : String
  id : String
  deriving DecidableEq, Repr

/-- A line that connects an input of a component. -/
structure PinLine where
  pin : Pin
  component : String
  value : String
  deriving DecidableEq, Repr

/-- A line that observes the output of a component. -/
structure OutputLine where
  component : String
  value : String
  deriving DecidableEq, Repr

/-- Reads a line `KIND(id)`. -/
def GateLine.read? (line : List Char) : Option GateLine :=
  match line.takeWhile Text.isWord with
  | [] => none
  | kind =>
    match readParenthesised (line.dropWhile Text.isWord) with
    | some (id, []) => some ⟨.ofList kind, .ofList id⟩
    | _ => none

/-- Reads `(id) = value` after the name of a pin. -/
def PinLine.readAt (pin : Pin) (text : List Char) : Option PinLine := do
  let (id, after) ← readParenthesised text
  let value ← readAssigned after
  return ⟨pin, .ofList id, .ofList value⟩

/-- Reads a line `IN1(id) = value` or `IN2(id) = value`. -/
def PinLine.read? : List Char → Option PinLine
  | 'I' :: 'N' :: '1' :: rest => readAt .first rest
  | 'I' :: 'N' :: '2' :: rest => readAt .second rest
  | _ => none

/-- Reads a line `OUT(id) = value`. -/
def OutputLine.read? : List Char → Option OutputLine
  | 'O' :: 'U' :: 'T' :: rest => do
    let (id, after) ← readParenthesised rest
    let value ← readAssigned after
    return ⟨.ofList id, .ofList value⟩
  | _ => none

/-- Reads a value `OUT(id)`: the identifier. -/
def readOutput? : List Char → Option String
  | 'O' :: 'U' :: 'T' :: rest =>
    match readParenthesised rest with
    | some (id, []) => some (.ofList id)
    | _ => none
  | _ => none

end CircuitDiagnosis.CircuitFile
