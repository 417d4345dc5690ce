import CircuitDiagnosis.Conflict.Extraction
import CircuitDiagnosis.HittingSet.Search
import CircuitDiagnosis.Statistics.Casing

/-!
# Statistics

Statistics are written as lines `lead name=value`. Nothing is written before the first
configuration, and later ones change nothing. A statistic is a single value or a record of named
counters; a counter is written under the name of the record, an underscore and its own name.
-/

namespace CircuitDiagnosis

/-- A value, or named counters in the order in which they are written. -/
inductive Statistic where
  | value (text : String)
  | counters (fields : List (String × Nat))
  deriving DecidableEq, Repr

namespace Statistic

/-- The name of a part of what is known by a name. -/
def nested (name part : String) : String := name ++ "_" ++ part

/-- The name of a chain of parts; without any it is empty. -/
def chain : List String → String
  | [] => ""
  | name :: parts => parts.foldl nested name

/-- The names and values that a statistic writes under a name. -/
def entries (name : String) : Statistic → List (String × String)
  | .value text => [(name, text)]
  | .counters fields => fields.map fun (part, count) => (nested name part, toString count)

end Statistic

/-- The counters of an extractor. -/
def ExtractionStatistics.statistic (s : ExtractionStatistics) : Statistic :=
  .counters [("num_queries", s.numQueries),
    ("num_conflicting_candidates", s.numConflictingCandidates),
    ("num_minimal_conflicts", s.numMinimalConflicts)]

/-- The counters of a search. -/
def SearchStatistics.statistic (s : SearchStatistics) : Statistic :=
  .counters [("nodes_visited", s.nodesVisited),
    ("num_solution_nodes", s.numSolutionNodes),
    ("num_pruned_nodes", s.numPrunedNodes),
    ("max_stack_size", s.maxStackSize),
    ("time_spent_in_search", s.timeSpentInSearch)]

/-- How statistics are written: what leads every line, the line that closes them, and the style of
their names. -/
structure StatisticFormat where
  lead : String
  closing : Option String
  casing : Option Casing

/-- The line of a name and a value, without its end. -/
def StatisticFormat.line (format : StatisticFormat) (name value : String) : String :=
  format.lead ++ " " ++ ((format.casing.map fun casing => casing.apply name).getD name) ++ "=" ++
    value

/-- Where lines go: the writer turns a line into the text it puts out, or refuses it. -/
structure StatisticOutput where
  format : StatisticFormat
  write : String → Except String String

/-- What a program asks of its statistics. -/
inductive StatisticStep where
  | configure (output : StatisticOutput)
  | entry (name value : String)
  | closing
  | statistic (name : String) (statistic : Statistic)

/-- The state of the statistics of a program: the output once it is configured, and the text that
was written so far. -/
structure StatisticLog where
  output : Option StatisticOutput := none
  written : String := ""
  events : List Event := []

namespace StatisticLog

/-- The statistics of a program that starts. -/
def start : StatisticLog := {}

instance : Inhabited StatisticLog := ⟨start⟩

/-- Whether statistics are written. -/
def enabled (log : StatisticLog) : Bool := log.output.isSome

/-- The first configuration is kept. -/
def configure (log : StatisticLog) (output : StatisticOutput) : StatisticLog :=
  if log.enabled then log else { log with output := some output }

/-- Writes a line; when the writer refuses it, the text is lost. -/
def writeLine (log : StatisticLog) (output : StatisticOutput) (line : String) : StatisticLog :=
  match output.write (line ++ "\n") with
  | .ok text => { log with written := log.written ++ text }
  | .error reason => { log with events := log.events ++ [.statisticLost reason] }

/-- Writes the line of a name and a value. -/
def entry (log : StatisticLog) (name value : String) : StatisticLog :=
  match log.output with
  | some output => log.writeLine output (output.format.line name value)
  | none => log

/-- Writes the closing line, if one was configured. -/
def close (log : StatisticLog) : StatisticLog :=
  match log.output with
  | some output =>
    match output.format.closing with
    | some line => log.writeLine output line
    | none => log
  | none => log

/-- Writes a statistic under a name. -/
def statistic (log : StatisticLog) (name : String) (s : Statistic) : StatisticLog :=
  (s.entries name).foldl (fun log e => log.entry e.1 e.2) log

/-- The state after a step. -/
def step (log : StatisticLog) : StatisticStep → StatisticLog
  | .configure output => log.configure output
  | .entry name value => log.entry name value
  | .closing => log.close
  | .statistic name s => log.statistic name s

/-- The state after several steps. -/
def run (log : StatisticLog) (steps : List StatisticStep) : StatisticLog := steps.foldl step log

end StatisticLog

/-- The output that puts every line out as it is. -/
def StatisticOutput.plain (format : StatisticFormat) : StatisticOutput := ⟨format, .ok⟩

/-- The format in which the program writes its statistics. -/
def StatisticFormat.program : StatisticFormat :=
  ⟨"%%%diagnose-stat:", some "%%%diagnose-stat-end", some .camel⟩

end CircuitDiagnosis
