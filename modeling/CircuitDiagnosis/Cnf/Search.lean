import CircuitDiagnosis.Cnf.Consequence

/-!
# Guesses and their conclusions

A search for a valuation of a formula guesses the values of atoms one after another. After every
guess it draws conclusions by unit propagation: a clause with a single literal that is not false
makes that literal true.

* The trail holds the true literals in the order in which they became true; the level of an atom is
  the number of guesses before it got its value, and its reason the clause that gave it.
* Every clause of two or more literals is watched by two of them. As long as neither is false the
  clause has nothing to tell, so that only the clauses that watch a literal are visited when it
  becomes false.

All this is bookkeeping. What a search finds out carries its own evidence (`Finding`): a valuation
that was checked, or an empty clause among the consequences of the formula.
-/

namespace CircuitDiagnosis

namespace Cnf

/-- What a search found out about a formula. -/
inductive Finding (f : Cnf Nat) where
  /-- A valuation makes the formula true. -/
  | satisfied (valuation : Nat → Bool) (holds : f.holds valuation = true)
  /-- No valuation makes the formula true. -/
  | refuted (fails : ∀ valuation, f.holds valuation = false)
  /-- The search gave up. -/
  | undecided

namespace Finding

variable {f : Cnf Nat}

/-- Whether the formula is satisfiable, if that was found out. -/
def verdict? : Finding f → Option Bool
  | satisfied .. => some true
  | refuted _ => some false
  | undecided => none

theorem satisfiable_iff_of_verdict? {finding : Finding f} {b : Bool}
    (h : finding.verdict? = some b) : f.Satisfiable ↔ b = true := by
  cases finding with
  | satisfied v hv =>
    simp only [verdict?, Option.some.injEq] at h
    exact ⟨fun _ => h.symm, fun _ => ⟨v, hv⟩⟩
  | refuted hf =>
    simp only [verdict?, Option.some.injEq] at h
    simp [← h, Satisfiable, hf]
  | undecided => simp [verdict?] at h

end Finding

/-! ### Numbers of literals -/

/-- The number of a literal: twice its atom, and one more if it is positive. -/
def code (l : Literal Nat) : Nat := 2 * l.atom + l.positive.toNat

/-- The literal of a number. -/
def ofCode (n : Nat) : Literal Nat := ⟨n / 2, n % 2 == 1⟩

/-- The number of the opposite literal. -/
def opposite (n : Nat) : Nat := n ^^^ 1

/-- The state of a search. Literals are given by their numbers, clauses by their places in the
order in which they were added. -/
structure Search (f : Cnf Nat) where
  /-- The number of atoms. -/
  size : Nat
  /-- The clauses. -/
  consequences : Array (Consequence f) := #[]
  /-- The literals of all clauses in a row, the two watching ones of each first. -/
  pool : Array Nat := #[]
  /-- Where in the row the literals of each clause start; at the end, where the next ones will. -/
  starts : Array Nat := #[0]
  /-- For every literal the clauses that it watches. -/
  watched : Array (Array Nat) := .replicate (2 * size) #[]
  /-- For every literal whether it is true. -/
  truth : Array Bool := .replicate (2 * size) false
  /-- For every atom its level. -/
  level : Array Nat := .replicate size 0
  /-- For every atom its reason; a guess has none. -/
  reason : Array (Option Nat) := .replicate size none
  /-- The true literals. -/
  trail : Array Nat := #[]
  /-- For every guess the length of the trail before it. -/
  guesses : Array Nat := #[]
  /-- The length of the part of the trail whose conclusions were drawn. -/
  drawn : Nat := 0
  /-- The length of the part of the trail whose literals are consequences by themselves. -/
  settled : Nat := 0
  /-- For every atom how often and how lately it took part in a conflict. -/
  activity : Array Nat := .replicate size 0
  /-- What the next conflict adds to the activity of an atom. -/
  weight : Nat := 1
  /-- For every atom the value that it had last. -/
  phase : Array Bool := .replicate size false

namespace Search

variable {f : Cnf Nat} (s : Search f)

/-- Whether a literal is true. -/
def isTrue (n : Nat) : Bool := s.truth.getD n false

/-- Whether a literal is false. -/
def isFalse (n : Nat) : Bool := s.truth.getD (opposite n) false

/-- Where the literals of a clause start. -/
def first (i : Nat) : Nat := s.starts.getD i 0

/-- The literals of a clause. -/
def codes (i : Nat) : List Nat := (s.pool.extract (s.first i) (s.first (i + 1))).toList

/-- The clauses of given places. -/
def clauses (places : List Nat) : List (Consequence f) :=
  places.filterMap fun i => s.consequences[i]?

/-- Makes a literal true. -/
def assign (n : Nat) (reason : Option Nat) : Search f :=
  { s with
    truth := s.truth.setIfInBounds n true
    level := s.level.setIfInBounds (n / 2) s.guesses.size
    reason := s.reason.setIfInBounds (n / 2) reason
    trail := s.trail.push n }

/-- Guesses that a literal is true. -/
def guess (n : Nat) : Search f :=
  { s with guesses := s.guesses.push s.trail.size }.assign n none

/-- Adds a clause, whose first two literals are to watch it. -/
def add (c : Consequence f) (codes : List Nat) : Search f :=
  let i := s.consequences.size
  let pool := codes.foldl Array.push s.pool
  { s with
    consequences := s.consequences.push c
    pool := pool
    starts := s.starts.push pool.size
    watched :=
      match codes with
      | m :: n :: _ => (s.watched.modify m (·.push i)).modify n (·.push i)
      | _ => s.watched }

/-- Visits the clauses that a literal watches which became false. Each looks for another literal to
watch it; one that finds none makes its last literal true or, if that is false, is in conflict. -/
def visit (n : Nat) : Search f × Option Nat := Id.run do
  let places := s.watched.getD n #[]
  let mut s := { s with watched := s.watched.setIfInBounds n #[] }
  let mut kept : Array Nat := #[]
  let mut conflict : Option Nat := none
  for i in places do
    if conflict.isSome then
      kept := kept.push i
    else
      let first := s.first i
      if s.pool.getD first 0 == n then
        s := { s with pool := s.pool.swapIfInBounds first (first + 1) }
      let other := s.pool.getD first 0
      if s.isTrue other then
        kept := kept.push i
      else
        let mut free : Option Nat := none
        for k in [first + 2:s.first (i + 1)] do
          if !s.isFalse (s.pool.getD k 0) then
            free := some k
            break
        match free with
        | some k =>
          let m := s.pool.getD k 0
          s := { s with
            pool := s.pool.swapIfInBounds (first + 1) k
            watched := s.watched.modify m (·.push i) }
        | none =>
          kept := kept.push i
          if s.isFalse other then conflict := some i else s := s.assign other (some i)
  return ({ s with watched := s.watched.setIfInBounds n kept }, conflict)

/-- Draws all conclusions, or some up to a clause in conflict. -/
def propagate : Search f × Option Nat := Id.run do
  let mut s := s
  for _ in [0:s.size] do
    if s.drawn < s.trail.size then
      let n := s.trail.getD s.drawn 0
      let (next, conflict) := { s with drawn := s.drawn + 1 }.visit (opposite n)
      s := next
      if conflict.isSome then
        return (s, conflict)
    else
      break
  return (s, none)

/-- Takes back the guesses from a level on, with their conclusions. -/
def backtrack (level : Nat) : Search f := Id.run do
  match s.guesses[level]? with
  | none => return s
  | some length =>
    let mut s := s
    for k in [length:s.trail.size] do
      let n := s.trail.getD k 0
      s := { s with
        truth := s.truth.setIfInBounds n false
        phase := s.phase.setIfInBounds (n / 2) (n % 2 == 1) }
    return { s with
      trail := s.trail.take length
      guesses := s.guesses.take level
      drawn := length }

/-- The search with the clauses of the formula. -/
def start (f : Cnf Nat) : Search f :=
  let size := f.foldl (fun n c => c.foldl (fun n l => max n (l.atom + 1)) n) 0
  (Consequence.ofFormula f).foldl (fun s c => s.add c (c.clause.map code)) { size := size }

/-- Makes the literals true that are clauses by themselves, or some up to a clause in conflict. -/
def assignUnits : Search f × Option Nat := Id.run do
  let mut s := s
  for i in [0:s.consequences.size] do
    let length := s.first (i + 1) - s.first i
    if length == 0 then
      return (s, some i)
    else if length == 1 then
      let n := s.pool.getD (s.first i) 0
      if s.isFalse n then
        return (s, some i)
      else if !s.isTrue n then
        s := s.assign n (some i)
  return (s, none)

/-- The atom without a value that was most active. -/
def choice? : Option Nat := Id.run do
  let mut best : Option Nat := none
  let mut most := 0
  for x in [0:s.size] do
    if !s.isTrue (2 * x) && !s.isTrue (2 * x + 1) then
      let activity := s.activity.getD x 0
      if best.isNone || activity > most then
        best := some x
        most := activity
  return best

/-- The finding that the true literals satisfy the formula. -/
def confirm : Finding f :=
  let valuation := fun x => s.isTrue (2 * x + 1)
  if h : f.holds valuation = true then .satisfied valuation h else .undecided

/-- The finding from a clause that is in conflict before any guess. -/
def refute (conflict : Nat) : Finding f :=
  let reasons := s.trail.toList.filterMap fun n => s.reason.getD (n / 2) none
  match Consequence.derive? s.size [] (s.clauses (reasons ++ [conflict])) with
  | none => .undecided
  | some c =>
    if h : c.clause = [] then .refuted (Consequence.holds_eq_false_of_nil h) else .undecided

end Search

end Cnf

end CircuitDiagnosis
