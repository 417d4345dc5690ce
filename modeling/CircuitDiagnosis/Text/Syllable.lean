import CircuitDiagnosis.Text.CodePoints

/-!
# Syllables

Scripts that write a syllable as one sign build it from several characters. In Hangul the parts are
initial consonants, vowels and final consonants, or a block that already holds several of them. In
the scripts of the Indic family consonants form a conjunct when a linking mark stands between them.
-/

namespace CircuitDiagnosis.Text

/-- What a character contributes to a syllable of Hangul. -/
inductive SyllablePart where
  /-- An initial consonant. -/
  | initial
  /-- A vowel. -/
  | vowel
  /-- A final consonant. -/
  | final
  /-- A block of an initial consonant and a vowel, which a final consonant can follow. -/
  | openBlock
  /-- A block of all three parts. -/
  | closedBlock
  deriving DecidableEq, Repr

/-- The code points of the initial consonants. -/
def initialRanges : List (Nat × Nat) := [(0x1100, 0x115f), (0xa960, 0xa97c)]

/-- The code points of the vowels; a few of another script combine in the same way. -/
def vowelRanges : List (Nat × Nat) :=
  [(0x1160, 0x11a7), (0xd7b0, 0xd7c6), (0x16d63, 0x16d63), (0x16d67, 0x16d6a)]

/-- The code points of the final consonants. -/
def finalRanges : List (Nat × Nat) := [(0x11a8, 0x11ff), (0xd7cb, 0xd7fb)]

/-- The part of a syllable that a character is. The blocks are in one row, with `27` closed blocks
behind each open one. -/
def syllablePart? (c : Char) : Option SyllablePart :=
  let n := c.toNat
  if inRanges n initialRanges then some .initial
  else if inRanges n vowelRanges then some .vowel
  else if inRanges n finalRanges then some .final
  else if inRanges n [(0xac00, 0xd7a3)] then
    some (if (n - 0xac00) % 28 = 0 then .openBlock else .closedBlock)
  else none

/-- Whether the second part continues the syllable that ends in the first. -/
def SyllablePart.precedes : SyllablePart → SyllablePart → Bool
  | .initial, .final => false
  | .initial, _ => true
  | .vowel, next => next == .vowel || next == .final
  | .openBlock, next => next == .vowel || next == .final
  | .final, next => next == .final
  | .closedBlock, next => next == .final

/-- Whether the second character continues the syllable that ends in the first. -/
def continuesSyllable (last c : Char) : Bool :=
  match syllablePart? last, syllablePart? c with
  | some p, some q => p.precedes q
  | _, _ => false

/-- The code points of the consonants that can form a conjunct. -/
def conjunctConsonantRanges : List (Nat × Nat) :=
  [(0x915, 0x939), (0x958, 0x95f), (0x978, 0x97f), (0x995, 0x9a8), (0x9aa, 0x9b0), (0x9b2, 0x9b2),
   (0x9b6, 0x9b9), (0x9dc, 0x9dd), (0x9df, 0x9df), (0x9f0, 0x9f1), (0xa95, 0xaa8), (0xaaa, 0xab0),
   (0xab2, 0xab3), (0xab5, 0xab9), (0xaf9, 0xaf9), (0xb15, 0xb28), (0xb2a, 0xb30), (0xb32, 0xb33),
   (0xb35, 0xb39), (0xb5c, 0xb5d), (0xb5f, 0xb5f), (0xb71, 0xb71), (0xc15, 0xc28), (0xc2a, 0xc39),
   (0xc58, 0xc5a), (0xd15, 0xd3a), (0x1000, 0x102a), (0x103f, 0x103f), (0x1050, 0x1055),
   (0x105a, 0x105d), (0x1061, 0x1061), (0x1065, 0x1066), (0x106e, 0x1070), (0x1075, 0x1081),
   (0x108e, 0x108e), (0x1780, 0x17b3), (0x1a20, 0x1a54), (0x1b0b, 0x1b0c), (0x1b13, 0x1b33),
   (0x1b45, 0x1b4c), (0x1b83, 0x1ba0), (0x1bae, 0x1baf), (0x1bbb, 0x1bbd), (0xa989, 0xa98b),
   (0xa98f, 0xa9b2), (0xa9e0, 0xa9e4), (0xa9e7, 0xa9ef), (0xa9fa, 0xa9fe), (0xaa60, 0xaa6f),
   (0xaa71, 0xaa73), (0xaa7a, 0xaa7a), (0xaa7e, 0xaa7f), (0xaae0, 0xaaea), (0xabc0, 0xabda),
   (0x10a00, 0x10a00), (0x10a10, 0x10a13), (0x10a15, 0x10a17), (0x10a19, 0x10a35),
   (0x11103, 0x11126), (0x11144, 0x11144), (0x11147, 0x11147), (0x11380, 0x11389),
   (0x1138b, 0x1138b), (0x1138e, 0x1138e), (0x11390, 0x113b5), (0x11900, 0x11906),
   (0x11909, 0x11909), (0x1190c, 0x11913), (0x11915, 0x11916), (0x11918, 0x1192f),
   (0x11a00, 0x11a00), (0x11a0b, 0x11a32), (0x11a50, 0x11a50), (0x11a5c, 0x11a83),
   (0x11f04, 0x11f10), (0x11f12, 0x11f33)]

/-- The code points of the marks that link two consonants to a conjunct. -/
def conjunctLinkerRanges : List (Nat × Nat) :=
  [(0x94d, 0x94d), (0x9cd, 0x9cd), (0xacd, 0xacd), (0xb4d, 0xb4d), (0xc4d, 0xc4d), (0xd4d, 0xd4d),
   (0x1039, 0x1039), (0x17d2, 0x17d2), (0x1a60, 0x1a60), (0x1b44, 0x1b44), (0x1bab, 0x1bab),
   (0xa9c0, 0xa9c0), (0xaaf6, 0xaaf6), (0x10a3f, 0x10a3f), (0x11133, 0x11133), (0x113d0, 0x113d0),
   (0x1193e, 0x1193e), (0x11a47, 0x11a47), (0x11a99, 0x11a99), (0x11f42, 0x11f42)]

/-- Whether a character is a consonant that can form a conjunct. -/
def isConjunctConsonant (c : Char) : Bool := inRanges c.toNat conjunctConsonantRanges

/-- Whether a character is a mark that links two consonants to a conjunct. -/
def isConjunctLinker (c : Char) : Bool := inRanges c.toNat conjunctLinkerRanges

end CircuitDiagnosis.Text
