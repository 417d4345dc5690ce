import CircuitDiagnosis.Cnf.Search

/-!
# Clauses learned from conflicts

When the conclusions of the guesses put a clause in conflict, some of the guesses exclude each
other. The search follows the reasons of the false literals back until one literal of the last level
is left. That literal and the ones of earlier levels form a clause that follows from the formula. It
is added, the guesses behind the second highest of its levels are taken back, and the clause then
makes its first literal true. The atoms that took part become more active, and the most active atom
is guessed next.
-/

namespace CircuitDiagnosis

namespace Cnf

namespace Search

variable {f : Cnf Nat} (s : Search f)

/-- Makes clauses of the literals that became true before any guess. -/
def settle : Search f := Id.run do
  let length := s.guesses.getD 0 s.trail.size
  let mut s := s
  for k in [s.settled:length] do
    let n := s.trail.getD k 0
    if let some i := s.reason.getD (n / 2) none then
      let others := (s.codes i).filter fun m => m != n
      if !others.isEmpty then
        let units := others.filterMap fun m => s.reason.getD (m / 2) none
        if let some c := Consequence.derive? s.size [ofCode n] (s.clauses (units ++ [i])) then
          let j := s.consequences.size
          s := s.add c [n]
          s := { s with reason := s.reason.setIfInBounds (n / 2) (some j) }
  return { s with settled := length }

/-- What a conflict teaches. -/
structure Lesson where
  /-- The literals of a clause, the one of the last level first, then one of the next level. -/
  codes : List Nat
  /-- The next level. -/
  level : Nat
  /-- The clauses from which it follows, in the order in which they do so. -/
  sources : List Nat

/-- The lesson of a conflict, with the activity of the atoms that took part. -/
def analyse (conflict : Nat) : Search f × Lesson := Id.run do
  let last := s.guesses.size
  let mut s := s
  let mut seen : Array Bool := .replicate s.size false
  let mut units : List Nat := []
  let mut sources : List Nat := []
  let mut earlier : Array Nat := #[]
  -- The number of literals of the last level that were seen and not yet explained.
  let mut pending := 0
  let mut asserted := 0
  let mut clause := conflict
  let mut k := s.trail.size
  for _ in [0:s.trail.size] do
    sources := clause :: sources
    for j in [s.first clause:s.first (clause + 1)] do
      let n := s.pool.getD j 0
      let x := n / 2
      if s.isFalse n && !seen.getD x false then
        seen := seen.setIfInBounds x true
        s := { s with activity := s.activity.modify x (· + s.weight) }
        let level := s.level.getD x 0
        if level == 0 then
          units := (s.reason.getD x none).toList ++ units
        else if level == last then
          pending := pending + 1
        else
          earlier := earlier.push n
    for _ in [0:k] do
      k := k - 1
      if seen.getD (s.trail.getD k 0 / 2) false then
        break
    let n := s.trail.getD k 0
    asserted := opposite n
    pending := pending - 1
    if pending == 0 then
      break
    clause := (s.reason.getD (n / 2) none).getD clause
  let mut level := 0
  let mut place := 0
  for j in [0:earlier.size] do
    let l := s.level.getD (earlier.getD j 0 / 2) 0
    if l > level then
      level := l
      place := j
  return (s, ⟨asserted :: (earlier.swapIfInBounds 0 place).toList, level, units ++ sources⟩)

/-- Lets the next conflict count more than all before; large numbers are scaled down. -/
def age : Search f :=
  let weight := s.weight + s.weight / 16 + 1
  if weight < Nat.pow 2 50 then { s with weight := weight }
  else { s with
    weight := weight / Nat.pow 2 30
    activity := s.activity.map (· / Nat.pow 2 30) }

/-- Learns from a clause in conflict after some guess. -/
def learn? (conflict : Nat) : Option (Search f) :=
  let (s, lesson) := s.settle.analyse conflict
  (Consequence.derive? s.size (lesson.codes.map ofCode) (s.clauses lesson.sources)).map fun c =>
    let i := s.consequences.size
    ((s.backtrack lesson.level).add c lesson.codes).assign (lesson.codes.headD 0) (some i) |>.age

/-- Guesses and learns until the formula is decided or there were too many conflicts. From time to
time all guesses are taken back, so that the atoms that are active by now come first. -/
def run (conflicts : Nat) : Finding f := Id.run do
  let (first, contradiction) := s.assignUnits
  if let some i := contradiction then
    return first.refute i
  let mut s := first
  let mut learned := 0
  let mut patience := 100
  let mut restart := patience
  -- Between two conflicts every atom is guessed at most once.
  for _ in [0:(conflicts + 1) * (s.size + 2)] do
    let (next, conflict) := s.propagate
    s := next
    match conflict with
    | some i =>
      if s.guesses.isEmpty then
        return s.refute i
      if learned == conflicts then
        return .undecided
      match s.learn? i with
      | none => return .undecided
      | some next => s := next
      learned := learned + 1
    | none =>
      if learned ≥ restart then
        patience := patience + patience / 10
        restart := learned + patience
        s := s.backtrack 0
      else
        match s.choice? with
        | none => return s.confirm
        | some x => s := s.guess (code ⟨x, s.phase.getD x false⟩)
  return .undecided

end Search

/-- The finding of a search that learns from at most the given number of conflicts. -/
def search (f : Cnf Nat) (conflicts : Nat) : Finding f := (Search.start f).run conflicts

end Cnf

end CircuitDiagnosis
