import CircuitDiagnosis.CommandLine.Program

/-!
# The outer layer of the program

Reads the arguments, the file and the clock, and prints what the library answers.
-/

namespace CircuitDiagnosis.CommandLine

/-- The content of a file, if it can be read. -/
def readContent (path : String) : IO (Option ByteArray) := do
  try
    return some (← IO.FS.readBinFile path)
  catch _ =>
    return none

/-- A generator seeded with random bytes of the system. -/
def systemGenerator : IO Generator := do
  let bytes ← IO.getRandomBytes 8
  return .ofSeed (bytes.foldl (fun n b => (n <<< 8) ||| b.toUInt64) 0)

/-- Advances a search under the clock of the system. -/
partial def advanceTimed (conflicts : List ComponentSet) (heuristic : Heuristic) (start : Nat)
    (st : SearchState ComponentId Generator) (stop : TimedCondition) :
    IO (SearchEnd ComponentId Generator TimedCondition) := do
  let elapsed := (← IO.monoMsNow) - start
  match st.advance conflicts heuristic.selector (.timed fun _ => elapsed) stop with
  | .inl (st, stop) => advanceTimed conflicts heuristic start st stop
  | .inr ended => return ended

/-- Searches with a heuristic under the clock of the system. -/
def searchTimed (o : Options) (conflicts : List ComponentSet) (heuristic : Heuristic) :
    IO TimedSearch := do
  let generator := (o.search heuristic).generator (← systemGenerator)
  let start ← IO.monoMsNow
  let startNanos ← IO.monoNanosNow
  let ended ← advanceTimed conflicts heuristic start (.initial generator) ⟨o.stopCondition, 0⟩
  let elapsed : Duration := ⟨(← IO.monoNanosNow) - startNanos⟩
  return ⟨heuristic, .ofEnd ended elapsed.milliseconds, elapsed⟩

/-- Runs the program with its options. -/
def runTimed (o : Options) : IO Result := do
  match prepare o (← readContent o.path) with
  | (out, .error error) => return .of out (.error error)
  | (out, .ok conflicts) =>
    let heuristics := if conflicts.isEmpty then [] else o.heuristics
    let (rest, outcome) := conclude o conflicts (← heuristics.mapM (searchTimed o conflicts))
    return .of (out ++ rest) outcome

/-- Answers the arguments of the program; the exit code. -/
def answer (arguments : List String) : IO UInt32 := do
  let response ← respond runTimed arguments
  IO.eprint response.errors
  IO.print response.text
  return response.code.toUInt32

end CircuitDiagnosis.CommandLine

/-- The program. -/
def main (arguments : List String) : IO UInt32 := CircuitDiagnosis.CommandLine.answer arguments
