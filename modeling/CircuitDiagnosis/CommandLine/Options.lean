import CircuitDiagnosis.HittingSet.Selector
import CircuitDiagnosis.HittingSet.StopCondition

/-!
# Options of the command line

The arguments are read from the left. Options may stand before and after the path of the circuit
file; after `--` everything is a path. A value follows its option as the next argument or after an
equals sign; as the next argument it must not look like an option. Flags of one letter may share
one argument. No option may be given twice. Asking for help or for the version ends the reading at
once, so only errors to the left of it matter.
-/

namespace CircuitDiagnosis.CommandLine

/-- The way in which hitting sets are found. -/
inductive Algorithm where
  | hsTree
  | bruteForce
  deriving DecidableEq, Repr, Inhabited

/-- What is asked of a run of the program. -/
structure Options where
  path : String
  heuristic : Heuristic := .smallest
  algorithm : Algorithm := .hsTree
  seed : Option UInt64 := none
  nodeLimit : Option Nat := none
  timeLimit : Option Nat := none
  compareHeuristics : Bool := false
  verbose : Bool := false
  logStatistics : Bool := false
  deriving DecidableEq, Repr, Inhabited

namespace Options

/-- The options of a search under a heuristic. -/
def search (o : Options) (heuristic : Heuristic) : SearchOptions := ⟨heuristic, o.seed⟩

/-- The limits of a search. -/
def stopCondition (o : Options) : StopCondition :=
  .either (.ofOption (o.nodeLimit.map .nodes)) (.ofOption (o.timeLimit.map .timeBudget))

end Options

/-- An option of the command line. -/
inductive Name where
  | heuristic
  | algorithm
  | seed
  | nodeLimit
  | timeLimit
  | compareHeuristics
  | verbose
  | logStatistics
  | help
  | version
  deriving DecidableEq, Repr

namespace Name

/-- All options. -/
def all : List Name :=
  [.heuristic, .algorithm, .seed, .nodeLimit, .timeLimit, .compareHeuristics, .verbose,
    .logStatistics, .help, .version]

/-- The long name of an option. -/
def long : Name → String
  | .heuristic => "heuristic"
  | .algorithm => "algorithm"
  | .seed => "random-seed"
  | .nodeLimit => "node-limit"
  | .timeLimit => "time-limit"
  | .compareHeuristics => "compare-heuristics"
  | .verbose => "verbose"
  | .logStatistics => "log-statistics"
  | .help => "help"
  | .version => "version"

/-- The letter of an option, if it has one. -/
def short? : Name → Option Char
  | .verbose => some 'v'
  | .logStatistics => some 's'
  | .help => some 'h'
  | .version => some 'V'
  | _ => none

/-- Whether an option takes a value. -/
def takesValue : Name → Bool
  | .heuristic | .algorithm | .seed | .nodeLimit | .timeLimit => true
  | _ => false

end Name

/-- Why arguments are refused. -/
inductive UsageError where
  | noArguments
  | unexpected (argument : String)
  | missingValue (name : Name)
  | unwantedValue (name : Name)
  | repeated (name : Name)
  | invalidValue (name : Name) (value : String)
  | emptyPath
  | missingPath
  deriving DecidableEq, Repr

/-- The wording of an error. It is this library's own; other readers of such arguments refuse the same
ones in other words. -/
def UsageError.message : UsageError → String
  | .noArguments => "no arguments were given"
  | .unexpected argument => s!"unexpected argument '{argument}'"
  | .missingValue name => s!"a value is required for '--{name.long}'"
  | .unwantedValue name => s!"no value is allowed for '--{name.long}'"
  | .repeated name => s!"'--{name.long}' cannot be used multiple times"
  | .invalidValue name value => s!"invalid value '{value}' for '--{name.long}'"
  | .emptyPath => "the path of the circuit file is empty"
  | .missingPath => "the path of the circuit file is missing"

/-- What the arguments ask for. -/
inductive Invocation where
  | run (options : Options)
  | help
  | version
  deriving DecidableEq, Repr

/-! ### Values -/

/-- The number of decimal digits, which must fit into 64 bits. A plus sign may stand before. -/
def readNumber (value : String) : Option Nat :=
  let digits := match value.toList with
    | '+' :: rest => rest
    | digits => digits
  if digits.isEmpty || !digits.all Char.isDigit then none
  else
    let n := digits.foldl (fun n c => 10 * n + (c.toNat - '0'.toNat)) 0
    if n < UInt64.size then some n else none

/-- The algorithm of a name. -/
def readAlgorithm : String → Option Algorithm
  | "hs-tree" => some .hsTree
  | "brute-force" => some .bruteForce
  | _ => none

/-! ### Arguments -/

/-- What was read so far: the options that were given, the path if it was given, and the rest. -/
structure Reading where
  seen : List Name := []
  path : Option String := none
  options : Options := { path := "" }

/-- Notes that an option is given, which must be for the first time. -/
def Reading.note (r : Reading) (name : Name) : Except UsageError Reading :=
  if name ∈ r.seen then .error (.repeated name) else .ok { r with seen := name :: r.seen }

/-- The options with the value of an option, if the option takes the value. -/
def withValue (o : Options) (name : Name) (value : String) : Option Options :=
  match name with
  | .heuristic => (Heuristic.ofName value).toOption.map fun h => { o with heuristic := h }
  | .algorithm => (readAlgorithm value).map fun a => { o with algorithm := a }
  | .seed => (readNumber value).map fun n => { o with seed := some n.toUInt64 }
  | .nodeLimit => (readNumber value).map fun n => { o with nodeLimit := some n }
  | .timeLimit => (readNumber value).map fun n => { o with timeLimit := some n }
  | _ => none

/-- Takes an option with its value. -/
def Reading.value (r : Reading) (name : Name) (value : String) : Except UsageError Reading := do
  let r ← r.note name
  match withValue r.options name value with
  | some options => return { r with options := options }
  | none => .error (.invalidValue name value)

/-- The options with a flag. -/
def withFlag (o : Options) : Name → Options
  | .compareHeuristics => { o with compareHeuristics := true }
  | .verbose => { o with verbose := true }
  | .logStatistics => { o with logStatistics := true }
  | _ => o

/-- Takes a flag: what was read then, or the invocation that ends the reading. -/
def Reading.flag (r : Reading) (name : Name) : Except UsageError (Reading ⊕ Invocation) :=
  match name with
  | .help => .ok (.inr .help)
  | .version => .ok (.inr .version)
  | name => do
    let r ← r.note name
    return .inl { r with options := withFlag r.options name }

/-- Takes the flags of one argument. -/
def Reading.flags (r : Reading) (argument : String) :
    List Char → Except UsageError (Reading ⊕ Invocation)
  | [] => .ok (.inl r)
  | letter :: rest =>
    match Name.all.find? fun name => name.short? == some letter with
    | none => .error (.unexpected argument)
    | some name => do
      match ← r.flag name with
      | .inl r => r.flags argument rest
      | .inr invocation => return .inr invocation

/-- Takes the path of the circuit file. -/
def Reading.takePath (r : Reading) (path : String) : Except UsageError Reading :=
  if r.path.isSome then .error (.unexpected path)
  else if path.isEmpty then .error .emptyPath
  else .ok { r with path := some path }

/-- Takes arguments that are all paths. -/
def Reading.takePaths (r : Reading) : List String → Except UsageError Reading
  | [] => .ok r
  | path :: rest => do
    let r ← r.takePath path
    r.takePaths rest

/-- Whether an argument is written as an option. -/
def looksLikeOption (argument : String) : Bool :=
  match argument.toList with
  | ['-'] => false
  | '-' :: _ => true
  | _ => false

/-- Splits a long option into its name and the value after an equals sign. -/
def splitLong (text : List Char) : String × Option String :=
  match text.dropWhile fun c => c != '=' with
  | [] => (.ofList text, none)
  | _ :: value => (.ofList (text.takeWhile fun c => c != '='), some (.ofList value))

/-- The invocation of what was read. -/
def Reading.finish (r : Reading) : Except UsageError Invocation :=
  match r.path with
  | none => .error .missingPath
  | some path => .ok (.run { r.options with path := path })

/-- Reads the arguments that are left. -/
def Reading.arguments (r : Reading) : List String → Except UsageError Invocation
  | [] => r.finish
  | argument :: rest =>
    match argument.toList with
    | ['-', '-'] => do
      let r ← r.takePaths rest
      r.finish
    | '-' :: '-' :: text =>
      let (long, value) := splitLong text
      match Name.all.find? fun name => name.long == long, value with
      | none, _ => .error (.unexpected argument)
      | some name, some value =>
        if name.takesValue then do
          let r ← r.value name value
          r.arguments rest
        else .error (.unwantedValue name)
      | some name, none =>
        if name.takesValue then
          match rest with
          | value :: rest =>
            if looksLikeOption value then .error (.missingValue name)
            else do
              let r ← r.value name value
              r.arguments rest
          | [] => .error (.missingValue name)
        else do
          match ← r.flag name with
          | .inl r => r.arguments rest
          | .inr invocation => return invocation
    | '-' :: letter :: letters => do
      match ← r.flags argument (letter :: letters) with
      | .inl r => r.arguments rest
      | .inr invocation => return invocation
    | _ => do
      let r ← r.takePath argument
      r.arguments rest

/-- Reads the arguments of the program. -/
def readArguments (arguments : List String) : Except UsageError Invocation :=
  if arguments.isEmpty then .error .noArguments else Reading.arguments {} arguments

end CircuitDiagnosis.CommandLine
