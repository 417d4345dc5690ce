import CircuitDiagnosis.OrdSet.Basic
import CircuitDiagnosis.OrdSet.Minimal
import CircuitDiagnosis.Circuit.Gate
import CircuitDiagnosis.Circuit.Component
import CircuitDiagnosis.Circuit.Basic
import CircuitDiagnosis.Circuit.FaultAssignment
import CircuitDiagnosis.Circuit.Table
import CircuitDiagnosis.Cnf.Basic
import CircuitDiagnosis.Cnf.Solver
import CircuitDiagnosis.HittingSet.Heuristic
import CircuitDiagnosis.Log.Event
import CircuitDiagnosis.Oracle.Query
import CircuitDiagnosis.Oracle.Formula
import CircuitDiagnosis.Oracle.Basic
import CircuitDiagnosis.Oracle.Encoder
import CircuitDiagnosis.OrdSet.Combinations
import CircuitDiagnosis.Conflict.Extraction
import CircuitDiagnosis.Random.Generator
import CircuitDiagnosis.HittingSet.Basic
import CircuitDiagnosis.HittingSet.Selector
import CircuitDiagnosis.HittingSet.StopCondition
import CircuitDiagnosis.HittingSet.Search
import CircuitDiagnosis.HittingSet.SelectionRule
import CircuitDiagnosis.HittingSet.BruteForce
import CircuitDiagnosis.HittingSet.Diagnosis
import CircuitDiagnosis.Statistics.Casing
import CircuitDiagnosis.Statistics.Log
import CircuitDiagnosis.Text.CodePoints
import CircuitDiagnosis.Text.WordCharacter
import CircuitDiagnosis.Text.Line
import CircuitDiagnosis.Text.LetterCase
import CircuitDiagnosis.CircuitFile.Section
import CircuitDiagnosis.CircuitFile.Line
import CircuitDiagnosis.CircuitFile.Parser
import CircuitDiagnosis.CircuitFile.Printer
import CircuitDiagnosis.CommandLine.Duration
import CircuitDiagnosis.CommandLine.Options
import CircuitDiagnosis.CommandLine.Program
import CircuitDiagnosis.Main
import CircuitDiagnosis.Circuit.Wiring
import CircuitDiagnosis.Conflict.Theory
import CircuitDiagnosis.HittingSet.PreOrder
import CircuitDiagnosis.CircuitFile.Grammar
import CircuitDiagnosis.Cnf.DecisionTree
import CircuitDiagnosis.Cnf.Constraint
import CircuitDiagnosis.Proofs.OrdSet.Minimality
import CircuitDiagnosis.Proofs.OrdSet.Subsets
import CircuitDiagnosis.Proofs.HittingSet.Walk
import CircuitDiagnosis.Proofs.HittingSet.Exactness
import CircuitDiagnosis.Proofs.HittingSet.Duality
import CircuitDiagnosis.Proofs.Cnf.Elimination
import CircuitDiagnosis.Proofs.Cnf.Decision
import CircuitDiagnosis.Proofs.Oracle.Encoding
import CircuitDiagnosis.Proofs.Circuit.FaultAssignment
import CircuitDiagnosis.Proofs.Oracle.Consistency
import CircuitDiagnosis.Proofs.Conflict.Extraction
import CircuitDiagnosis.Proofs.Conflict.Diagnosis
import CircuitDiagnosis.Proofs.Conflict.Generation
import CircuitDiagnosis.Proofs.Oracle.Monotonicity
import CircuitDiagnosis.Proofs.HittingSet.PreOrder
import CircuitDiagnosis.Proofs.HittingSet.Limit
import CircuitDiagnosis.Proofs.HittingSet.Trace
import CircuitDiagnosis.Proofs.HittingSet.Budget
import CircuitDiagnosis.Proofs.Conflict.Questions
import CircuitDiagnosis.Proofs.CircuitFile.Line
import CircuitDiagnosis.Proofs.CircuitFile.Section
import CircuitDiagnosis.Proofs.Circuit.Components
import CircuitDiagnosis.Proofs.CircuitFile.Language
import CircuitDiagnosis.Proofs.CircuitFile.WellFormed
import CircuitDiagnosis.Proofs.CircuitFile.Layout
import CircuitDiagnosis.Proofs.CircuitFile.RoundTrip
import CircuitDiagnosis.Proofs.HittingSet.Accounting
import CircuitDiagnosis.Proofs.HittingSet.TreeSize
import CircuitDiagnosis.Proofs.CommandLine.ExitCode
import CircuitDiagnosis.Proofs.Conflict.Explanation
import CircuitDiagnosis.Proofs.Oracle.Simulation
import CircuitDiagnosis.Proofs.Conflict.Influence
import CircuitDiagnosis.Proofs.Conflict.Reordering
import CircuitDiagnosis.Proofs.CommandLine.HealthReport
import CircuitDiagnosis.Proofs.HittingSet.Soundness
import CircuitDiagnosis.Proofs.CircuitFile.Arrangement
import CircuitDiagnosis.Proofs.OrdSet.Antichain
import CircuitDiagnosis.Proofs.Conflict.Calls
import CircuitDiagnosis.Proofs.Oracle.References
import CircuitDiagnosis.Proofs.Conflict.Dangling
import CircuitDiagnosis.Proofs.CircuitFile.Fault
import CircuitDiagnosis.Proofs.CircuitFile.Rejection
import CircuitDiagnosis.Proofs.CircuitFile.Enclosure
import CircuitDiagnosis.Proofs.CommandLine.PrintedSets
import CircuitDiagnosis.Proofs.Statistics.Run
import CircuitDiagnosis.Proofs.Oracle.Encoder
import CircuitDiagnosis.Proofs.CircuitFile.LineParts
import CircuitDiagnosis.Proofs.HittingSet.Choice
import CircuitDiagnosis.Proofs.HittingSet.Indexing
import CircuitDiagnosis.Proofs.Circuit.Positions
