import CircuitDiagnosis.Oracle.Basic
import CircuitDiagnosis.OrdSet.Combinations
import CircuitDiagnosis.OrdSet.Minimal

/-!
# Extraction of conflict sets

A conflict set is a set of components that cannot all be healthy, given what was observed. An
extraction asks an oracle about every non-empty set of components of the circuit: its members are
assumed healthy and all other components faulty. The candidates come by increasing size, those of
one size in the lexicographic order of declaration. The extraction ends with the first query that
fails; if none does, the minimal sets among the inconsistent ones are the conflict sets.

An extractor keeps the state of its oracle and its counters from one extraction to the next.
-/

namespace CircuitDiagnosis

universe u

/-- A query failed while a candidate was assumed to be healthy. -/
structure ExtractionError where
  candidate : ComponentSet
  cause : OracleError

/-- The wording of the error. -/
def ExtractionError.message (e : ExtractionError) : String :=
  "The oracle failed when assuming " ++ e.candidate.text ++ " to be healthy, more details: " ++
    e.cause.message

/-- What the oracle answered about one candidate, and what it logged. -/
structure Answer where
  candidate : ComponentSet
  verdict : Except OracleError Verdict
  logged : List Event

namespace Answer

/-- Whether the query failed. -/
def failed (a : Answer) : Bool :=
  match a.verdict with
  | .error _ => true
  | .ok _ => false

/-- Whether the members of the candidate cannot all be healthy. -/
def conflicting (a : Answer) : Bool :=
  match a.verdict with
  | .ok .unsatisfiable => true
  | _ => false

/-- The error of a query that failed. -/
def error? (a : Answer) : Option ExtractionError :=
  match a.verdict with
  | .error cause => some ⟨a.candidate, cause⟩
  | .ok _ => none

/-- What is logged about a candidate: first by the oracle, then an inconsistency. -/
def events (a : Answer) : List Event :=
  a.logged ++ if a.conflicting then [.candidateInconsistent a.candidate] else []

end Answer

/-- The candidates of one size, in the lexicographic order of declaration. -/
def Circuit.candidatesOfSize (circuit : Circuit) (size : Nat) : List ComponentSet :=
  (combinations size circuit.ids).map OrdSet.ofList

/-- All non-empty sets of components in the order in which an extraction asks about them. -/
def Circuit.candidates (circuit : Circuit) : List ComponentSet :=
  (List.range' 1 circuit.size).flatMap circuit.candidatesOfSize

namespace Oracle

variable {σ : Type u} (oracle : Oracle σ) (circuit : Circuit) (observations : List Observation)

/-- Asks about candidates in turn, up to the first query that fails. -/
def askAll : List ComponentSet → σ → List Answer × σ
  | [], state => ([], state)
  | candidate :: rest, state =>
    let reply := oracle.ask (.assuming circuit observations candidate) state
    let answer : Answer := ⟨candidate, reply.verdict, reply.events⟩
    if answer.failed then ([answer], reply.state)
    else
      let (answers, state) := askAll rest reply.state
      (answer :: answers, state)

/-- Asks about the candidates of several sizes in turn, up to the first query that fails. The
candidates of a size are listed only when all smaller ones were answered. -/
def askSizes : List Nat → σ → List Answer × σ
  | [], state => ([], state)
  | size :: rest, state =>
    let (answers, state) :=
      oracle.askAll circuit observations (circuit.candidatesOfSize size) state
    if answers.any Answer.failed then (answers, state)
    else
      let (more, state) := askSizes rest state
      (answers ++ more, state)

theorem askAll_append (l m : List ComponentSet) (state : σ) :
    oracle.askAll circuit observations (l ++ m) state =
      let (answers, state) := oracle.askAll circuit observations l state
      if answers.any Answer.failed then (answers, state)
      else
        let (more, state) := oracle.askAll circuit observations m state
        (answers ++ more, state) := by
  induction l generalizing state with
  | nil => simp [askAll]
  | cons c rest ih =>
    simp only [List.cons_append, askAll]
    split
    · next h => simp [h]
    · next h =>
      simp only [ih, List.any_cons, h, Bool.false_or]
      split <;> simp

/-- Asking size by size is asking about all candidates in one row. -/
theorem askSizes_eq_askAll (sizes : List Nat) (state : σ) :
    oracle.askSizes circuit observations sizes state =
      oracle.askAll circuit observations (sizes.flatMap circuit.candidatesOfSize) state := by
  induction sizes generalizing state with
  | nil => simp [askSizes, askAll]
  | cons size rest ih => simp only [askSizes, List.flatMap_cons, askAll_append, ih]

end Oracle

/-- The counters of an extractor, over all its extractions. -/
structure ExtractionStatistics where
  numQueries : Nat := 0
  numConflictingCandidates : Nat := 0
  numMinimalConflicts : Nat := 0
  deriving DecidableEq, Repr, Inhabited

/-- What an extractor keeps: the state of its oracle and its counters. -/
structure Extractor (σ : Type u) where
  state : σ
  statistics : ExtractionStatistics := {}

/-- The outcome of one extraction: the conflict sets or why there are none, the answers of the
oracle in order, the extractor afterwards, and what was logged. -/
structure Extraction (σ : Type u) where
  outcome : Except ExtractionError (List ComponentSet)
  answers : List Answer
  extractor : Extractor σ
  events : List Event

/-- The minimal sets among the inconsistent candidates, or the error of the query that failed. -/
def conflictsOf (answers : List Answer) : Except ExtractionError (List ComponentSet) :=
  match answers.findSome? Answer.error? with
  | some error => .error error
  | none => .ok (OrdSet.retainMinimal ((answers.filter Answer.conflicting).map Answer.candidate))

namespace ExtractionStatistics

/-- The counters after one more extraction. -/
def add (s : ExtractionStatistics) (answers : List Answer)
    (outcome : Except ExtractionError (List ComponentSet)) : ExtractionStatistics where
  numQueries := s.numQueries + answers.length
  numConflictingCandidates := s.numConflictingCandidates + answers.countP Answer.conflicting
  numMinimalConflicts := s.numMinimalConflicts +
    match outcome with
    | .ok conflicts => conflicts.length
    | .error _ => 0

end ExtractionStatistics

/-- What is logged at the end of an extraction that did not fail. -/
def summaryEvents (statistics : ExtractionStatistics) :
    Except ExtractionError (List ComponentSet) → List Event
  | .error _ => []
  | .ok [] => [.allHealthyConsistent]
  | .ok conflicts => [.conflictsFound conflicts.length statistics.numQueries]

namespace Extractor

variable {σ : Type u}

/-- Extracts the conflict sets of a circuit with its observations. -/
def extract (extractor : Extractor σ) (oracle : Oracle σ) (circuit : Circuit)
    (observations : List Observation) : Extraction σ :=
  let (answers, state) :=
    oracle.askSizes circuit observations (List.range' 1 circuit.size) extractor.state
  let outcome := conflictsOf answers
  let statistics := extractor.statistics.add answers outcome
  { outcome := outcome
    answers := answers
    extractor := ⟨state, statistics⟩
    events := answers.flatMap Answer.events ++ summaryEvents statistics outcome }

/-- Extracts from several circuits in turn, with one extractor. -/
def extractAll (oracle : Oracle σ) :
    List (Circuit × List Observation) → Extractor σ → List (Extraction σ)
  | [], _ => []
  | (circuit, observations) :: rest, extractor =>
    let extraction := extractor.extract oracle circuit observations
    extraction :: extractAll oracle rest extraction.extractor

end Extractor

/-- The check of the number of queries at the end of an extraction that did not fail: one for each
non-empty set of components. The number is kept in 64 bits, and it is not checked for circuits of
so many components that it may not fit. -/
def Extraction.passesCountCheck {σ : Type u} (extraction : Extraction σ) (circuit : Circuit) :
    Bool :=
  decide (64 ≤ circuit.size) ||
    UInt64.ofNat extraction.answers.length == ((1 : UInt64) <<< UInt64.ofNat circuit.size) - 1

/-- The conflict sets of a circuit with its observations, by the solver. -/
def extractConflicts (circuit : Circuit) (observations : List Observation) :
    Except ExtractionError (List ComponentSet) :=
  (Extractor.extract ⟨(), {}⟩ solverOracle circuit observations).outcome

end CircuitDiagnosis
