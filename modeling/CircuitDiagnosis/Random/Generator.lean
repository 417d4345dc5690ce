/-!
# Random numbers

The generator xoshiro256++ on four words of 64 bits. A seed of 64 bits fills its state by eight
steps of the generator PCG32, four bytes each, the lowest byte first. `below` draws a number from a
range without bias: a draw is scaled to the range and rejected if it lies in the part of the words
that would favour some numbers.
-/

namespace CircuitDiagnosis

/-- The state of the generator. -/
structure Generator where
  a : UInt64
  b : UInt64
  c : UInt64
  d : UInt64
  deriving DecidableEq, Repr, Inhabited

namespace Generator

/-- The word with its bits rotated to the left. -/
def rotateLeft (x : UInt64) (k : UInt64) : UInt64 := (x <<< k) ||| (x >>> (64 - k))

/-- The next number and the state after it. -/
def next (g : Generator) : UInt64 × Generator :=
  let c := g.c ^^^ g.a
  let d := g.d ^^^ g.b
  (rotateLeft (g.a + g.d) 23 + g.a,
    { a := g.a ^^^ d
      b := g.b ^^^ c
      c := c ^^^ (g.b <<< 17)
      d := rotateLeft d 45 })

/-! ### Seeding -/

/-- One step of the seeding generator: its next state. -/
def seedStep (s : UInt64) : UInt64 := s * 6364136223846793005 + 11634580027462260723

/-- The 32 bits that the seeding generator shows in a state. -/
def seedWord (s : UInt64) : UInt32 :=
  let x : UInt32 := (((s >>> 18) ^^^ s) >>> 27).toUInt32
  let k : UInt32 := (s >>> 59).toUInt32
  (x >>> k) ||| (x <<< ((32 - k) % 32))

/-- Two successive words of the seeding generator, the first in the low half, and its state. -/
def seedPair (s : UInt64) : UInt64 × UInt64 :=
  let low := seedStep s
  let high := seedStep low
  ((seedWord low).toUInt64 ||| ((seedWord high).toUInt64 <<< 32), high)

/-- The generator of a seed. -/
def ofSeed (seed : UInt64) : Generator :=
  let (a, s) := seedPair seed
  let (b, s) := seedPair s
  let (c, s) := seedPair s
  let (d, _) := seedPair s
  ⟨a, b, c, d⟩

/-! ### Numbers of a range -/

/-- The largest low word of a product that is accepted for a range. -/
def zone (range : Nat) : Nat := (range <<< (63 - range.log2)) - 1

/-- The first accepted draw among at most `limit`, scaled to the range. -/
def draw (range : Nat) : (limit : Nat) → Generator → Nat × Generator
  | 0, g => (0, g)
  | limit + 1, g =>
    let (word, g) := g.next
    let product := word.toNat * range
    if product % UInt64.size ≤ zone range then (product / UInt64.size, g)
    else draw range limit g

/-- A number below `range`. The generator has `2 ^ 256` states, so a draw that is ever accepted is
among the first `2 ^ 256` ones. -/
def below (range : Nat) (g : Generator) : Nat × Generator := draw range (Nat.pow 2 256) g

theorem draw_lt {range : Nat} (h : 0 < range) (limit : Nat) (g : Generator) :
    (draw range limit g).1 < range := by
  induction limit generalizing g with
  | zero => simpa [draw] using h
  | succ limit ih =>
    simp only [draw]
    split
    · refine Nat.div_lt_of_lt_mul ?_
      rw [Nat.mul_comm UInt64.size]
      rw [Nat.mul_comm]
      exact Nat.mul_lt_mul_of_pos_left g.next.1.toNat_lt h
    · exact ih _

theorem below_lt {range : Nat} (h : 0 < range) (g : Generator) : (g.below range).1 < range :=
  draw_lt h _ g

/-- A number from `low` up to but without `high`. -/
def inRange (low high : Nat) (g : Generator) : Nat × Generator :=
  let (offset, g) := g.below (high - low)
  (low + offset, g)

end Generator

/-- There is no number in a range. -/
structure EmptyRange where
  low : Nat
  high : Nat
  deriving DecidableEq, Repr

/-- The wording of the error. -/
def EmptyRange.message (r : EmptyRange) : String :=
  s!"Cannot sample from the empty range {r.low}..{r.high}"

/-- A source of random numbers with a state of type `ρ`. It is asked for a number from `low` up to
but without `high`. -/
structure RandomSource (ρ : Type) where
  sample : (low high : Nat) → ρ → Except EmptyRange (Nat × ρ)

/-- The generator as a source; it refuses a range that holds no number. -/
def Generator.source : RandomSource Generator where
  sample low high g := if low < high then .ok (g.inRange low high) else .error ⟨low, high⟩

end CircuitDiagnosis
