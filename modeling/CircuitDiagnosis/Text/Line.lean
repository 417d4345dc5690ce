/-!
# Lines and blanks

The blank characters, trimming them off both ends of a text, and the lines of a text. A line ends
at a line feed; a carriage return before it is blank, so it goes with the trimming.
-/

namespace CircuitDiagnosis.Text

/-- Whether a character has the Unicode property White_Space. -/
def isBlank (c : Char) : Bool :=
  let n := c.toNat
  (9 ≤ n && n ≤ 13) || n == 0x20 || n == 0x85 || n == 0xa0 || n == 0x1680 ||
    (0x2000 ≤ n && n ≤ 0x200a) || n == 0x2028 || n == 0x2029 || n == 0x202f || n == 0x205f ||
    n == 0x3000

/-- The text without the blanks at its ends. -/
def trim (cs : List Char) : List Char :=
  ((cs.dropWhile isBlank).reverse.dropWhile isBlank).reverse

/-- The parts of a text between line feeds. -/
def splitLines (cs : List Char) : List (List Char) :=
  cs.foldr (fun c lines =>
    if c = '\n' then [] :: lines else (c :: lines.headD []) :: lines.tail) [[]]

/-- The lines of a text without the blanks at their ends; lines of blanks are left out. -/
def trimmedLines (cs : List Char) : List (List Char) :=
  ((splitLines cs).map trim).filter fun line => !line.isEmpty

end CircuitDiagnosis.Text
