import CircuitDiagnosis.CircuitFile.Parser
import CircuitDiagnosis.CommandLine.Duration
import CircuitDiagnosis.CommandLine.Options
import CircuitDiagnosis.HittingSet.Diagnosis
import CircuitDiagnosis.Statistics.Log

/-!
# The program

A run of the program reads the circuit file, extracts the conflict sets, finds the hitting sets and
prints them. `prepare` goes up to the conflict sets, `Options.heuristics` says which searches to
make then, and `conclude` prints their results; the searches stand between the two, so that they
can be run under a real clock. `run` puts all together for clocks that are known beforehand, and
`respond` answers the arguments of the program.
-/

namespace CircuitDiagnosis.CommandLine

/-- Why a run fails. -/
inductive ProgramError where
  | invalidCircuit (error : CircuitFile.FileError)
  | extraction (error : ExtractionError)
  | heuristicsDisagree (first second : Heuristic)

/-- The wording of an error. -/
def ProgramError.message : ProgramError → String
  | .invalidCircuit error => "The circuit file was invalid, more details: " ++ error.message
  | .extraction error => "Failed to extract the conflict sets, more details: " ++ error.message
  | .heuristicsDisagree first second =>
    s!"The heuristics {first.name} and {second.name} found different minimal hitting sets"

/-- What a run prints and logs. -/
structure Output where
  text : String := ""
  events : List Event := []

namespace Output

/-- One output after the other. -/
def append (a b : Output) : Output := ⟨a.text ++ b.text, a.events ++ b.events⟩

instance : Append Output := ⟨append⟩

/-- A line of text. -/
def line (text : String) : Output := ⟨text ++ "\n", []⟩

/-- Events without text. -/
def log (events : List Event) : Output := ⟨"", events⟩

/-- A title and sets below it. -/
def sets (title : String) (l : List ComponentSet) : Output :=
  ⟨title ++ ":\n" ++ String.join (l.map fun s => s.text ++ "\n"), []⟩

end Output

namespace Options

/-- What a step on the statistics prints, if statistics are asked for. -/
def statistics (o : Options) (step : StatisticStep) : Output :=
  let log := if o.logStatistics then StatisticLog.start.configure (.plain .program) else .start
  let log := log.step step
  ⟨log.written, log.events⟩

/-- The heuristics to search with when there are conflict sets. -/
def heuristics (o : Options) : List Heuristic :=
  if o.compareHeuristics then Heuristic.all
  else
    match o.algorithm with
    | .hsTree => [o.heuristic]
    | .bruteForce => []

/-- The level of the least events that are shown. -/
def level (o : Options) : Level := if o.verbose then .debug else .warn

end Options

/-- A search and how long it took. -/
structure TimedSearch where
  heuristic : Heuristic
  result : SearchResult ComponentId
  elapsed : Duration

/-- Reads the circuit file and extracts the conflict sets. -/
def prepare (o : Options) (content : Option ByteArray) :
    Output × Except ProgramError (List ComponentSet) :=
  let started := Output.log [.loggingConfigured]
  match CircuitFile.read content with
  | .error error => (started, .error (.invalidCircuit error))
  | .ok c =>
    let read := started ++ .log (CircuitFile.parseEvents (.ok c) ++
      [.diagnosing o.path c.circuit.size])
    let e := Extractor.extract ⟨(), {}⟩ solverOracle c.circuit c.observations
    let extracted := read ++ .log e.events
    match e.outcome with
    | .error error => (extracted, .error (.extraction error))
    | .ok conflicts =>
      (extracted ++ o.statistics (.statistic "extraction" e.extractor.statistics.statistic) ++
        .sets "Conflict sets" conflicts, .ok conflicts)

namespace TimedSearch

/-- What a search logs, and its statistics. -/
def report (o : Options) (conflicts : List ComponentSet) (s : TimedSearch) : Output :=
  .log (s.result.events s.heuristic conflicts ++
      if s.result.isComplete then [] else [.resultIncomplete]) ++
    o.statistics (.statistic ("search_" ++ s.heuristic.name) s.result.statistics.statistic)

/-- The line of a search in a comparison. -/
def summary (s : TimedSearch) : Output :=
  .line (s!"{s.heuristic.name}: {s.result.statistics.nodesVisited} nodes visited in " ++
    s!"{s.elapsed.text}, {s.result.minimalHittingSets.length} minimal hitting sets" ++
    if s.result.isComplete then "" else " (partial)")

/-- The hitting sets that a search found. -/
def details (s : TimedSearch) : Output :=
  .sets "Hitting sets" s.result.hittingSets ++
    .sets "Minimal hitting sets" s.result.minimalHittingSets ++
    .line (s!"Nodes visited: {s.result.statistics.nodesVisited}, time: {s.elapsed.text}") ++
    if s.result.isComplete then {}
    else .line "The search was stopped before completion, the result is partial."

end TimedSearch

/-- Compares the complete ones among several searches. -/
def compareSearches (searches : List TimedSearch) : Output × Except ProgramError Unit :=
  match searches.filter fun s => s.result.isComplete with
  | [] => ({}, .ok ())
  | reference :: others =>
    let differs (s : TimedSearch) : Bool :=
      s.result.minimalHittingSets != reference.result.minimalHittingSets
    match others.find? differs with
    | some other => ({}, .error (.heuristicsDisagree reference.heuristic other.heuristic))
    | none => (.sets "Minimal hitting sets" reference.result.minimalHittingSets, .ok ())

/-- Tests all combinations and prints the hitting sets among them. -/
def exhaust (o : Options) (conflicts : List ComponentSet) : Output :=
  let r := bruteForce conflicts
  .log (r.events conflicts) ++
    o.statistics (.entry "bruteForceCombinationsTested" (toString r.combinationsTested)) ++
    .sets "Hitting sets" r.hittingSets ++ .sets "Minimal hitting sets" r.minimalHittingSets

/-- Prints what follows the conflict sets, given the searches that the options ask for. -/
def conclude (o : Options) (conflicts : List ComponentSet) (searches : List TimedSearch) :
    Output × Except ProgramError Unit :=
  let closing := o.statistics .closing
  if conflicts.isEmpty then
    (.line "The circuit works correctly, there are no faulty components!" ++ closing, .ok ())
  else
    let reports := searches.foldl (fun out s => out ++ s.report o conflicts) {}
    if o.compareHeuristics then
      let summaries := searches.foldl (fun out s => out ++ s.summary) {}
      match compareSearches searches with
      | (out, .ok ()) => (reports ++ summaries ++ out ++ closing, .ok ())
      | (out, .error error) => (reports ++ summaries ++ out, .error error)
    else
      match o.algorithm with
      | .hsTree =>
        (reports ++ searches.foldl (fun out s => out ++ s.details) {} ++ closing, .ok ())
      | .bruteForce => (exhaust o conflicts ++ closing, .ok ())

/-- How a run ended: its exit code, what it printed, and what it logged. -/
structure Result where
  code : Nat
  text : String
  events : List Event

/-- The result of an output and the outcome after it. -/
def Result.of (out : Output) : Except ProgramError Unit → Result
  | .ok () => ⟨0, out.text, out.events⟩
  | .error error => ⟨1, out.text, out.events ++ [.executionFailed error.message]⟩

/-- What a run takes from outside: a generator for random choices without a seed, and the clock of
the search with each heuristic. -/
structure Surroundings where
  unseeded : Generator
  clock : Heuristic → Nat → Nat

/-- Surroundings in which no time passes. -/
def Surroundings.still (unseeded : Generator) : Surroundings := ⟨unseeded, fun _ => frozenClock⟩

/-- The search with a heuristic in the surroundings of a run. -/
def searchIn (s : Surroundings) (o : Options) (conflicts : List ComponentSet)
    (heuristic : Heuristic) : TimedSearch :=
  { heuristic := heuristic
    result :=
      (o.search heuristic).search s.unseeded (s.clock heuristic) o.stopCondition conflicts
    elapsed := ⟨0⟩ }

/-- A run of the program on the content of its file. -/
def run (s : Surroundings) (o : Options) (content : Option ByteArray) : Result :=
  match prepare o content with
  | (out, .error error) => .of out (.error error)
  | (out, .ok conflicts) =>
    let searches :=
      if conflicts.isEmpty then [] else o.heuristics.map (searchIn s o conflicts)
    let (rest, outcome) := conclude o conflicts searches
    .of (out ++ rest) outcome

/-- The lines of the log that are shown. -/
def shownLog (o : Options) (events : List Event) : String :=
  String.join ((events.filter fun e => o.level.weight ≤ e.level.weight).map fun e =>
    "% " ++ e.level.text ++ ": " ++ e.message ++ "\n")

/-- The name and the version of the program. -/
def versionLine : String := "diagnose-solver 0.1.0"

/-- How the program is used. The wording is this library's own; a help text that is made of the
descriptions of the options says the same with other words and in another layout. -/
def usage : String :=
  "Usage: diagnose-solver [OPTIONS] <CIRCUIT_PATH>\n\n" ++
  "Options:\n" ++
  "      --heuristic <HEURISTIC>      smallest, most_frequent or random\n" ++
  "      --algorithm <ALGORITHM>      hs-tree or brute-force\n" ++
  "      --random-seed <NUMBER>       the seed of the random heuristic\n" ++
  "      --node-limit <NUMBER>        the largest number of nodes to visit\n" ++
  "      --time-limit <NUMBER>        the milliseconds to search\n" ++
  "      --compare-heuristics         search with every heuristic\n" ++
  "  -v, --verbose                    log more\n" ++
  "  -s, --log-statistics             print statistics\n" ++
  "  -h, --help                       print this text\n" ++
  "  -V, --version                    print the version\n"

/-- What the program answers: its exit code, and what it writes to the standard output and to the
standard error. -/
structure Response where
  code : Nat
  text : String
  errors : String
  deriving DecidableEq, Repr

/-- Answers the arguments of the program, given how it is run with options. -/
def respond {m : Type → Type} [Monad m] (run : Options → m Result) (arguments : List String) :
    m Response :=
  match readArguments arguments with
  | .error error => return ⟨2, "", s!"error: {error.message}\n\n" ++ usage⟩
  | .ok .help => return ⟨0, usage, ""⟩
  | .ok .version => return ⟨0, versionLine ++ "\n", ""⟩
  | .ok (.run o) => do
    let result ← run o
    return ⟨result.code, result.text, shownLog o result.events⟩

/-- The answer to the arguments of the program in given surroundings, with given files. -/
def respondIn (s : Surroundings) (files : String → Option ByteArray) (arguments : List String) :
    Response :=
  Id.run (respond (fun o => pure (run s o (files o.path))) arguments)

end CircuitDiagnosis.CommandLine
