/-!
# Heuristics

The names of the rules that pick the conflict set on which a search branches.
-/

namespace CircuitDiagnosis

/-- A rule that picks one of the conflict sets that a path does not hit yet. -/
inductive Heuristic where
  /-- A smallest one. -/
  | smallest
  /-- One with a component that occurs in most of them. -/
  | mostFrequent
  /-- Any one, by a random number. -/
  | random
  deriving DecidableEq, Repr

/-- The name asked for is none of a heuristic. -/
inductive HeuristicError where
  | unknown (name : String)
  deriving DecidableEq, Repr

/-- The wording of the error. -/
def HeuristicError.message : HeuristicError → String
  | .unknown name =>
    s!"Unknown heuristic '{name}', expected one of 'smallest', 'most_frequent' or 'random'"

namespace Heuristic

instance : Inhabited Heuristic := ⟨.smallest⟩

/-- All heuristics, in the order in which they are compared. -/
def all : List Heuristic := [.smallest, .mostFrequent, .random]

/-- The name of a heuristic. -/
def name : Heuristic → String
  | .smallest => "smallest"
  | .mostFrequent => "most_frequent"
  | .random => "random"

/-- The heuristic of a name; names are matched exactly. -/
def ofName (name : String) : Except HeuristicError Heuristic :=
  match all.find? fun h => h.name == name with
  | some h => .ok h
  | none => .error (.unknown name)

end Heuristic

end CircuitDiagnosis
