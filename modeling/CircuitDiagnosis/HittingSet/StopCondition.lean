/-!
# Stop conditions

A search asks before every node whether to stop, and reports every node that it visits. A
`StopRule` is any such rule with a state. The conditions offered are budgets of nodes and of time
and their combinations. Time is read from a clock that gives, for every time it is asked, the whole
milliseconds since the start.
-/

namespace CircuitDiagnosis

/-- A rule that says before every node whether to stop and is told of every node visited. -/
structure StopRule (τ : Type) where
  shouldStop : τ → Bool × τ
  nodeVisited : τ → τ

/-- The rule that never stops. -/
def StopRule.never : StopRule Unit where
  shouldStop state := (false, state)
  nodeVisited state := state

/-- A condition under which a search stops. -/
inductive StopCondition where
  /-- It never stops. -/
  | indefinite
  /-- No condition was given. -/
  | absent
  /-- The condition that was given. -/
  | given (condition : StopCondition)
  /-- It stops once as many nodes were visited as the budget allows. -/
  | nodeBudget (budget : Nat) (visited : Nat)
  /-- It stops once the budget of milliseconds is used up. -/
  | timeBudget (milliseconds : Nat)
  /-- It stops as soon as one of the two does. -/
  | either (first second : StopCondition)
  deriving DecidableEq, Repr, Inhabited

namespace StopCondition

/-- Whether to stop when so many milliseconds have passed. -/
def shouldStop (elapsed : Nat) : StopCondition → Bool
  | .indefinite | .absent => false
  | .given condition => condition.shouldStop elapsed
  | .nodeBudget budget visited => budget ≤ visited
  | .timeBudget milliseconds => milliseconds ≤ elapsed
  | .either first second => first.shouldStop elapsed || second.shouldStop elapsed

/-- The condition after one more node. -/
def nodeVisited : StopCondition → StopCondition
  | .given condition => .given condition.nodeVisited
  | .nodeBudget budget visited => .nodeBudget budget (visited + 1)
  | .either first second => .either first.nodeVisited second.nodeVisited
  | condition => condition

/-- The least of two limits, where `none` is no limit. -/
def minLimit : Option Nat → Option Nat → Option Nat
  | some m, some n => some (min m n)
  | some m, none => some m
  | none, limit => limit

/-- After how many nodes a condition stops a search that takes no time: a budget of no time stops
it at once, and any other budget of time never. -/
def nodeLimit : StopCondition → Option Nat
  | .indefinite | .absent => none
  | .given condition => condition.nodeLimit
  | .nodeBudget budget visited => some (budget - visited)
  | .timeBudget milliseconds => if milliseconds = 0 then some 0 else none
  | .either first second => minLimit first.nodeLimit second.nodeLimit

/-- A budget of nodes of which none is used. -/
def nodes (budget : Nat) : StopCondition := .nodeBudget budget 0

/-- The condition that may have been given. -/
def ofOption : Option StopCondition → StopCondition
  | some condition => .given condition
  | none => .absent

end StopCondition

/-- A condition together with how often its clock was read. -/
structure TimedCondition where
  condition : StopCondition
  readings : Nat := 0
  deriving DecidableEq, Repr, Inhabited

/-- The rule of a condition under a clock: `clock n` is the time of its reading number `n`. -/
def StopRule.timed (clock : Nat → Nat) : StopRule TimedCondition where
  shouldStop t :=
    (t.condition.shouldStop (clock t.readings), { t with readings := t.readings + 1 })
  nodeVisited t := { t with condition := t.condition.nodeVisited }

/-- The clock that stands still. -/
def frozenClock : Nat → Nat := fun _ => 0

end CircuitDiagnosis
