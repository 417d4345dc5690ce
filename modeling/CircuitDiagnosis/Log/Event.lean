import CircuitDiagnosis.Circuit.Component
import CircuitDiagnosis.HittingSet.Heuristic

/-!
# Log events

What happened while a request was handled, as data. An event has a level, by which a reader decides
whether to see it, and a wording. Operations return the list of their events in order.
-/

namespace CircuitDiagnosis

/-- How much an event matters, the least first. -/
inductive Level where
  | trace
  | debug
  | info
  | warn
  | error
  deriving DecidableEq, Repr

namespace Level

/-- The name of a level. -/
def text : Level → String
  | .trace => "TRACE"
  | .debug => "DEBUG"
  | .info => "INFO"
  | .warn => "WARN"
  | .error => "ERROR"

/-- The place of a level in the order of weight. -/
def weight : Level → Nat
  | .trace => 0
  | .debug => 1
  | .info => 2
  | .warn => 3
  | .error => 4

end Level

/-- Something that happened and is worth a line in a log. -/
inductive Event where
  /-- A component was ignored because its identifier is taken. -/
  | componentIgnored (id : ComponentId)
  /-- The circuit text was read. -/
  | circuitParsed (components observations : Nat)
  /-- A query was handed to the solver. -/
  | querySolved (variableCount clauseCount : Nat)
  /-- The members of a set cannot all be healthy. -/
  | candidateInconsistent (candidate : ComponentSet)
  /-- An extraction ended without any conflict set. -/
  | allHealthyConsistent
  /-- An extraction ended with conflict sets. -/
  | conflictsFound (conflicts queries : Nat)
  /-- A search was started without any conflict set. -/
  | nothingToHit
  /-- A search was started with an empty conflict set. -/
  | unhittable
  /-- A path hits every conflict set. -/
  | solutionRecorded (path : ComponentSet)
  /-- A path was dropped because a recorded solution lies within it. -/
  | pathPruned (path : ComponentSet)
  /-- A search was told to stop. -/
  | searchStopped (pending : Nat)
  /-- A search ended. -/
  | searchEnded (heuristic : Heuristic) (visited minimal : Nat)
  /-- All combinations were tested. -/
  | combinationsTested (tested components hitting : Nat)
  /-- A line of statistics could not be written. -/
  | statisticLost (reason : String)
  /-- The program is ready to log. -/
  | loggingConfigured
  /-- The program starts with a circuit. -/
  | diagnosing (path : String) (components : Nat)
  /-- A limit ended a search of the program. -/
  | resultIncomplete
  /-- The program failed. -/
  | executionFailed (reason : String)

namespace Event

/-- The level of an event. -/
def level : Event → Level
  | .querySolved .. | .solutionRecorded _ | .pathPruned _ => .trace
  | .circuitParsed .. | .candidateInconsistent _ | .nothingToHit | .searchStopped _
  | .searchEnded .. | .combinationsTested .. | .statisticLost _ => .debug
  | .allHealthyConsistent | .conflictsFound .. | .loggingConfigured | .diagnosing .. => .info
  | .componentIgnored _ | .unhittable | .resultIncomplete => .warn
  | .executionFailed _ => .error

/-- The wording of an event. -/
def message : Event → String
  | .componentIgnored id => "Ignoring duplicate component " ++ id
  | .circuitParsed components observations =>
    s!"Parsed circuit with {components} components and {observations} observations"
  | .querySolved variableCount clauseCount =>
    s!"Solving query with {variableCount} variables and {clauseCount} clauses"
  | .candidateInconsistent candidate =>
    "Assuming " ++ candidate.text ++ " to be healthy is inconsistent"
  | .allHealthyConsistent => "The observations are consistent with all components being healthy"
  | .conflictsFound conflicts queries =>
    s!"Found {conflicts} minimal conflict sets after {queries} oracle queries"
  | .nothingToHit => "No conflict sets were provided, no diagnosis is needed"
  | .unhittable => "An empty conflict set cannot be hit, there are no diagnoses"
  | .solutionRecorded path => "Recording solution " ++ path.text
  | .pathPruned path => "Pruning " ++ path.text
  | .searchStopped pending => s!"Search stopped with {pending} pending nodes"
  | .searchEnded heuristic visited minimal =>
    s!"Search with heuristic {heuristic.name} visited {visited} nodes and found {minimal} " ++
      "minimal hitting sets"
  | .combinationsTested tested components hitting =>
    s!"Tested {tested} combinations of {components} components, {hitting} hit every conflict set"
  | .statisticLost reason => "Could not write statistic: " ++ reason
  | .loggingConfigured => "Logging successfully configured"
  | .diagnosing path components => s!"Diagnosing {path} with {components} components"
  | .resultIncomplete =>
    "The search was stopped by a limit, the hitting sets may be incomplete"
  | .executionFailed reason => "Execution failed, error: " ++ reason

end Event

end CircuitDiagnosis
