import CircuitDiagnosis.Text.Cluster
import CircuitDiagnosis.Text.LetterCase

/-!
# Casing of names

A casing may be any function of names. The usual ones split a name into words and join these in
another style (`Casing.ofWords`); five of them are spelled out here.

Words end at `_`, `-` and a space, which vanish; between a lower case and an upper case letter;
between a letter and a digit, both ways; and before the last of several upper case letters that a
lower case letter follows. A letter is a whole cluster, with its marks; a separator or a digit with
marks is none.
-/

namespace CircuitDiagnosis

/-- A style of names, given by what becomes of a name. -/
structure Casing where
  apply : String → String

namespace Casing

/-! ### The words of a name -/

/-- Whether a cluster parts words and vanishes. -/
def isSeparator (cluster : List Char) : Bool :=
  cluster == ['_'] || cluster == ['-'] || cluster == [' ']

/-- Whether a cluster is a decimal digit. -/
def isDigit (cluster : List Char) : Bool := cluster.all Char.isDigit

/-- Whether a cluster is an upper case or a lower case letter. -/
def isLetter (cluster : List Char) : Bool := Text.isUpper cluster || Text.isLower cluster

/-- Whether a new word starts at the cluster `c`, which follows `before` and is followed by
`after`. -/
def startsWord (before c : List Char) (after : Option (List Char)) : Bool :=
  (Text.isLower before && Text.isUpper c) ||
    (isDigit before && isLetter c) ||
    (isLetter before && isDigit c) ||
    (Text.isUpper before && Text.isUpper c && after.any Text.isLower)

/-- The words of the clusters that follow `before`, of which the first belongs to the current word;
that word comes first, even if it is empty. -/
def wordsAfter (before : Option (List Char)) : List (List Char) → List (List Char)
  | [] => [[]]
  | c :: rest =>
    let words := wordsAfter (some c) rest
    if isSeparator c then [] :: words
    else
      let current := (c ++ words.headD []) :: words.tail
      if before.any fun b => startsWord b c rest.head? then [] :: current else current

/-- The non-empty words of a name. -/
def words (name : String) : List (List Char) :=
  (wordsAfter none (Text.clusters name.toList)).filter fun w => !w.isEmpty

/-- A word with its first character in upper case and the others in lower case. -/
def capitalise : List Char → List Char
  | [] => []
  | c :: rest => Text.toUpper c ++ Text.lower rest

/-! ### Styles -/

/-- The style in which the words of a name are joined in a given way. -/
def ofWords (join : List (List Char) → List Char) : Casing where
  apply name := .ofList (join (words name))

/-- The first word in lower case, the others capitalised, nothing between them. -/
def camel : Casing :=
  .ofWords fun words => Text.lower (words.headD []) ++ words.tail.flatMap capitalise

/-- All words capitalised, nothing between them. -/
def pascal : Casing := .ofWords fun words => words.flatMap capitalise

/-- Lower case, joined by `_`. -/
def snake : Casing := .ofWords fun words => ['_'].intercalate (words.map Text.lower)

/-- Lower case, joined by `-`. -/
def kebab : Casing := .ofWords fun words => ['-'].intercalate (words.map Text.lower)

/-- Upper case, joined by `_`. -/
def upperSnake : Casing := .ofWords fun words => ['_'].intercalate (words.map Text.upper)

end Casing

end CircuitDiagnosis
