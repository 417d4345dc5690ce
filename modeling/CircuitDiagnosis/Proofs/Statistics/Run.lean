import CircuitDiagnosis.Statistics.Log
import Mathlib.Data.List.Basic

/-!
# What the statistics write

The text that the statistics of a program write, said for all of its steps together. A step asks for
some lines in the format that is configured (`StatisticStep.lines`), and what the writer makes of
these lines is all that the step changes (`StatisticLog.step_eq_withLines`). So nothing is written
for the steps before the first configuration, and the text of a run is what comes out for the lines
of the steps behind it, in their order (`StatisticLog.run_writes_lines`). A line that the writer
refuses leaves an event and no text, and the other lines come out as they do without it. The style
of the names may be any function of them.
-/

namespace CircuitDiagnosis

/-! ### The lines of a step -/

namespace StatisticFormat

variable (format : StatisticFormat)

/-- The name in the style of the format, or as it is. -/
def styled (name : String) : String :=
  match format.casing with
  | some casing => casing.apply name
  | none => name

theorem line_eq (name value : String) :
    format.line name value = format.lead ++ " " ++ format.styled name ++ "=" ++ value := by
  unfold line styled
  cases format.casing <;> rfl

end StatisticFormat

/-- The lines that a step asks for: a named value has one line, counters have one each under the
name of the record and their own, and there is a closing line if the format has one. -/
def StatisticStep.lines (format : StatisticFormat) : StatisticStep → List String
  | .configure _ => []
  | .entry name value => [format.lead ++ " " ++ format.styled name ++ "=" ++ value]
  | .closing => format.closing.toList
  | .statistic name (.value text) => [format.lead ++ " " ++ format.styled name ++ "=" ++ text]
  | .statistic name (.counters fields) => fields.map fun field =>
      format.lead ++ " " ++ format.styled (name ++ "_" ++ field.1) ++ "=" ++ toString field.2

/-- A chain of nested parts is known by their names, joined by underscores. -/
theorem Statistic.chain_eq_intercalate (names : List String) :
    chain names = "_".intercalate names := by
  cases names with
  | nil => rfl
  | cons name parts =>
      change parts.foldl nested name = "_".intercalate (name :: parts)
      induction parts generalizing name with
      | nil => exact String.intercalate_singleton.symm
      | cons part parts ih =>
          rw [List.foldl_cons, ih, nested, String.intercalate_cons_append,
            String.intercalate_cons_cons]

/-! ### What comes out -/

namespace StatisticOutput

variable (output : StatisticOutput)

/-- What comes out for a line: nothing if it is refused. -/
def put (line : String) : String :=
  match output.write (line ++ "\n") with
  | .ok text => text
  | .error _ => ""

/-- The event of a line that is refused. -/
def refusal? (line : String) : Option Event :=
  match output.write (line ++ "\n") with
  | .ok _ => none
  | .error reason => some (.statisticLost reason)

end StatisticOutput

namespace StatisticLog

variable {log : StatisticLog} {output : StatisticOutput}

/-- The log after the output was given some lines. -/
def withLines (log : StatisticLog) (output : StatisticOutput) (lines : List String) :
    StatisticLog :=
  { log with
    written := log.written ++ String.join (lines.map output.put)
    events := log.events ++ lines.filterMap output.refusal? }

@[simp] theorem withLines_nil (log : StatisticLog) (output : StatisticOutput) :
    log.withLines output [] = log := by
  simp [withLines]

theorem withLines_append (log : StatisticLog) (output : StatisticOutput) (l m : List String) :
    log.withLines output (l ++ m) = (log.withLines output l).withLines output m := by
  simp [withLines, String.append_assoc]

theorem writeLine_eq_withLines (log : StatisticLog) (output : StatisticOutput) (line : String) :
    log.writeLine output line = log.withLines output [line] := by
  unfold writeLine withLines
  cases hwrite : output.write (line ++ "\n") <;>
    simp [StatisticOutput.put, StatisticOutput.refusal?, hwrite]

theorem entry_eq_withLines (h : log.output = some output) (name value : String) :
    log.entry name value =
      log.withLines output
        [output.format.lead ++ " " ++ output.format.styled name ++ "=" ++ value] := by
  unfold entry
  rw [h]
  dsimp only
  rw [writeLine_eq_withLines, StatisticFormat.line_eq]

theorem foldl_entry_eq_withLines (h : log.output = some output) (entries : List (String × String)) :
    entries.foldl (fun log e => log.entry e.1 e.2) log =
      log.withLines output (entries.map fun e =>
        output.format.lead ++ " " ++ output.format.styled e.1 ++ "=" ++ e.2) := by
  induction entries generalizing log with
  | nil => simp
  | cons e rest ih =>
      have hkept : (log.entry e.1 e.2).output = some output := by
        rw [entry_eq_withLines h]
        exact h
      rw [List.foldl_cons, ih hkept, entry_eq_withLines h, ← withLines_append]
      rfl

/-- All that a step changes of a configured log is what the output makes of its lines. -/
theorem step_eq_withLines (h : log.output = some output) (s : StatisticStep) :
    log.step s = log.withLines output (s.lines output.format) := by
  cases s with
  | configure later =>
      -- A log that is configured is left as it is.
      have henabled : log.enabled = true := by
        unfold enabled
        rw [h]
        rfl
      change log.configure later = log.withLines output []
      rw [configure, if_pos henabled, withLines_nil]
  | entry name value => exact entry_eq_withLines h name value
  | closing =>
      change log.close = log.withLines output output.format.closing.toList
      unfold close
      rw [h]
      cases hclosing : output.format.closing with
      | none => simp [hclosing]
      | some line => simp only [hclosing, writeLine_eq_withLines, Option.toList_some]
  | statistic name s =>
      refine (foldl_entry_eq_withLines h (s.entries name)).trans ?_
      cases s with
      | value text => rfl
      | counters fields =>
          unfold Statistic.entries StatisticStep.lines Statistic.nested
          rw [List.map_map]
          rfl

theorem run_eq_withLines (h : log.output = some output) (steps : List StatisticStep) :
    log.run steps = log.withLines output (steps.flatMap (·.lines output.format)) := by
  unfold run
  induction steps generalizing log with
  | nil => simp
  | cons s rest ih =>
      have hkept : (log.step s).output = some output := by
        rw [step_eq_withLines h]
        exact h
      rw [List.foldl_cons, ih hkept, step_eq_withLines h, ← withLines_append, List.flatMap_cons]

theorem entry_eq_self (h : log.output = none) (name value : String) :
    log.entry name value = log := by
  unfold entry
  rw [h]

/-- A log that is not configured is only changed by a configuration. -/
theorem step_eq_self (h : log.output = none) {s : StatisticStep}
    (hs : ∀ output, s ≠ .configure output) : log.step s = log := by
  cases s with
  | configure output => exact absurd rfl (hs output)
  | entry name value => exact entry_eq_self h name value
  | closing =>
      change log.close = log
      unfold close
      rw [h]
  | statistic name s =>
      exact List.foldl_fixed' (fun e : String × String => entry_eq_self h e.1 e.2) (s.entries name)

theorem run_eq_self (h : log.output = none) {steps : List StatisticStep}
    (hsteps : ∀ output, .configure output ∉ steps) : log.run steps = log := by
  unfold run
  induction steps with
  | nil => rfl
  | cons s rest ih =>
      rw [List.foldl_cons, step_eq_self h fun output he => hsteps output (he ▸ List.mem_cons_self)]
      exact ih fun output hmem => hsteps output (List.mem_cons_of_mem s hmem)

/-- The first configuration holds for everything behind it. -/
theorem run_of_first_configuration {before : List StatisticStep}
    (hbefore : ∀ output, .configure output ∉ before) (output : StatisticOutput)
    (after : List StatisticStep) :
    start.run (before ++ .configure output :: after) =
      withLines { output := some output } output (after.flatMap (·.lines output.format)) := by
  have hconfigured : (start.run before).step (.configure output) = { output := some output } := by
    rw [run_eq_self rfl hbefore]
    rfl
  calc start.run (before ++ .configure output :: after)
      = ((start.run before).step (.configure output)).run after := by
        unfold run
        rw [List.foldl_append, List.foldl_cons]
    _ = withLines { output := some output } output
          (after.flatMap (·.lines output.format)) := by
        rw [hconfigured, run_eq_withLines rfl]

end StatisticLog

/-! ### The whole run -/

namespace StatisticOutput

variable {output : StatisticOutput}

theorem put_of_writes (h : ∀ text, output.write text = .ok text) (line : String) :
    output.put line = line ++ "\n" ∧ output.refusal? line = none := by
  unfold put refusal?
  rw [h]
  exact ⟨rfl, rfl⟩

theorem put_of_refuses (h : ∀ text, ∃ reason, output.write text = .error reason) (line : String) :
    output.put line = "" ∧ (output.refusal? line).isSome = true := by
  obtain ⟨reason, hreason⟩ := h (line ++ "\n")
  unfold put refusal?
  rw [hreason]
  exact ⟨rfl, rfl⟩

/-- A writer that takes everything puts out the lines, and nothing is logged. -/
theorem put_lines_of_writes (h : ∀ text, output.write text = .ok text) (lines : List String) :
    lines.map output.put = lines.map (· ++ "\n") ∧ lines.filterMap output.refusal? = [] := by
  refine ⟨List.map_congr_left fun line _ => (put_of_writes h line).1, ?_⟩
  exact List.filterMap_eq_nil_iff.mpr fun line _ => (put_of_writes h line).2

/-- A writer that refuses everything puts out nothing, and each line is logged. -/
theorem put_lines_of_refuses (h : ∀ text, ∃ reason, output.write text = .error reason)
    (lines : List String) :
    String.join (lines.map output.put) = "" ∧
      (lines.filterMap output.refusal?).length = lines.length := by
  constructor
  · rw [List.map_congr_left fun line _ => (put_of_refuses h line).1]
    induction lines with
    | nil => rfl
    | cons _ rest ih => rw [List.map_cons, String.join_cons, ih, String.empty_append]
  · induction lines with
    | nil => rfl
    | cons line rest ih =>
        obtain ⟨event, hevent⟩ := Option.isSome_iff_exists.mp (put_of_refuses h line).2
        rw [List.filterMap_cons_some hevent, List.length_cons, List.length_cons, ih]

end StatisticOutput

/-- **What a run of the statistics writes.** Nothing is written without a configuration. Behind the
first one the statistics are enabled, and the text is what the writer puts out for the lines of the
steps, in their order and in the format that was configured first. With a writer that takes
everything these are the lines themselves; a writer that refuses everything loses the text of every
line and nothing else. A chain of nested names is all of them, joined by underscores. -/
theorem StatisticLog.run_writes_lines :
    (∀ steps : List StatisticStep, (∀ output, .configure output ∉ steps) →
      (start.run steps).enabled = false ∧ (start.run steps).written = "") ∧
    (∀ (before : List StatisticStep) (output : StatisticOutput) (after : List StatisticStep),
      (∀ output', .configure output' ∉ before) →
      let log := start.run (before ++ .configure output :: after)
      let lines := after.flatMap (·.lines output.format)
      log.enabled = true ∧ log.output = some output ∧
        log.written = String.join (lines.map output.put) ∧
        log.events = lines.filterMap output.refusal? ∧
        ((∀ text, output.write text = .ok text) →
          log.written = String.join (lines.map (· ++ "\n")) ∧ log.events = []) ∧
        ((∀ text, ∃ reason, output.write text = .error reason) →
          log.written = "" ∧ log.events.length = lines.length)) ∧
    ∀ names : List String, Statistic.chain names = "_".intercalate names := by
  refine ⟨fun steps hsteps => ?_, fun before output after hbefore => ?_,
    Statistic.chain_eq_intercalate⟩
  · rw [run_eq_self rfl hsteps]
    exact ⟨rfl, rfl⟩
  · intro log lines
    have hlog : log = withLines { output := some output } output lines :=
      run_of_first_configuration hbefore output after
    have hwritten : log.written = String.join (lines.map output.put) := by
      rw [hlog]
      exact String.empty_append
    have hevents : log.events = lines.filterMap output.refusal? := by
      rw [hlog]
      rfl
    have houtput : log.output = some output := by
      rw [hlog]
      rfl
    refine ⟨?_, houtput, hwritten, hevents, fun hwrites => ?_, fun hrefuses => ?_⟩
    · unfold enabled
      rw [houtput]
      rfl
    · obtain ⟨hput, hnone⟩ := StatisticOutput.put_lines_of_writes hwrites lines
      rw [hwritten, hevents, hput, hnone]
      exact ⟨rfl, rfl⟩
    · rw [hwritten, hevents]
      exact StatisticOutput.put_lines_of_refuses hrefuses lines

/-- An entry before the configuration is not written, and a second configuration with another lead
and a writer that refuses does not matter. With that writer first, nothing is written at all. -/
theorem StatisticLog.run_writes_lines_two_configurations :
    let plain : StatisticOutput := .plain ⟨"%", some "%end", none⟩
    let closed : StatisticOutput := ⟨⟨"#", none, none⟩, fun _ => .error "full"⟩
    let steps : List StatisticStep := [
      .statistic (Statistic.chain ["search", "random", "width"]) (.value "9"),
      .statistic "search" (.counters [("nodes_visited", 5), ("num_solution_nodes", 3)]), .closing]
    let early : StatisticStep := .entry "lost" "0"
    (start.run (early :: .configure plain :: .configure closed :: steps)).written =
        "% search_random_width=9\n% search_nodes_visited=5\n% search_num_solution_nodes=3\n%end\n" ∧
      (start.run (early :: .configure closed :: .configure plain :: steps)).written = "" ∧
      (start.run (early :: steps)).written = "" := by
  intro plain closed steps early
  have hearly : ∀ output', .configure output' ∉ [early] := by simp [early]
  refine ⟨?_, ?_, ?_⟩
  · refine ((run_writes_lines.2.1 _ plain (.configure closed :: steps) hearly).2.2.2.2.1
      fun _ => rfl).1.trans ?_
    decide +kernel
  · exact ((run_writes_lines.2.1 _ closed (.configure plain :: steps) hearly).2.2.2.2.2
      fun _ => ⟨"full", rfl⟩).1
  · exact (run_writes_lines.1 _ fun output' => by simp [early, steps]).2

end CircuitDiagnosis
