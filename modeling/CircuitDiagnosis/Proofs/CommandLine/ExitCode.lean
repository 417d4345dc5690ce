import CircuitDiagnosis.CommandLine.Program
import CircuitDiagnosis.Proofs.CircuitFile.WellFormed
import CircuitDiagnosis.Proofs.Conflict.Questions
import CircuitDiagnosis.Proofs.HittingSet.Exactness

/-!
# The exit code

A run fails only if its file is refused. Of a circuit that was read from a text the extraction
succeeds (`ObservedCircuit.WellFormed.extracts`). A comparison finds no difference, since the
searches that come to their end enumerate the same sets whichever conflict sets they pick, and the
others are not compared (`compareSearches_snd`). So what follows the reading does not fail
(`code_run_of_parse`), and the exit code of the program tells whether the file was accepted
(`respondIn_of_run`).
-/

namespace CircuitDiagnosis

open CircuitFile OrdSet

/-! ### The extraction -/

/-- Of a well-formed circuit an extraction finds the conflict sets, and asks as often as it
should. -/
theorem ObservedCircuit.WellFormed.extracts {r : ObservedCircuit} (h : r.WellFormed) :
    (∃ conflicts, extractConflicts r.circuit r.observations = .ok conflicts) ∧
      (Extractor.extract ⟨(), {}⟩ solverOracle r.circuit r.observations).passesCountCheck
        r.circuit = true := by
  constructor
  · obtain ⟨conflicts, houtcome, _⟩ := enumerates_extract ⟨(), {}⟩ h.closed
    exact ⟨conflicts, houtcome⟩
  · exact passesCountCheck_of_length (length_answers_extract ⟨(), {}⟩ fun c _ => h.closed c)

namespace CommandLine

/-! ### Comparisons -/

/-- The result without the time that the search took. -/
def TimedSearch.untimed (t : TimedSearch) : SearchResult ComponentId :=
  { t.result with statistics := { t.result.statistics with timeSpentInSearch := 0 } }

/-- Up to the time that it took, the result is that of a search of the conflict sets, with any
selector and any stop rule. -/
def TimedSearch.Searches (t : TimedSearch) (conflicts : List ComponentSet) : Prop :=
  ∃ (σ τ : Type) (selector : Selector ComponentId σ) (choices : σ) (rule : StopRule τ) (stop : τ),
    t.untimed = search conflicts selector choices rule stop

section Comparison

variable {conflicts : List ComponentSet} {searches : List TimedSearch}

theorem searches_searchIn (s : Surroundings) (o : Options) (conflicts : List ComponentSet)
    (heuristic : Heuristic) : (searchIn s o conflicts heuristic).Searches conflicts := by
  refine ⟨_, _, heuristic.selector, (o.search heuristic).generator s.unseeded,
    .timed (s.clock heuristic), ⟨o.stopCondition, 0⟩, ?_⟩
  change _ = (searchIn s o conflicts heuristic).result
  unfold TimedSearch.untimed searchIn SearchOptions.search search
  simp only
  split
  · rfl
  · rfl

theorem TimedSearch.Searches.enumerates {t : TimedSearch} (h : t.Searches conflicts)
    (hcomplete : t.result.isComplete = true) :
    Enumerates (IsMinimalHittingSet conflicts) t.result.minimalHittingSets := by
  obtain ⟨σ, τ, selector, choices, rule, stop, hresult⟩ := h
  have hstatus : t.untimed.status = .complete := eq_of_beq hcomplete
  change Enumerates _ t.untimed.minimalHittingSets
  rw [hresult] at hstatus ⊢
  exact enumerates_search_of_complete _ _ _ _ _ hstatus

/-- A comparison of searches of the same conflict sets finds no difference. -/
theorem compareSearches_snd (h : ∀ t ∈ searches, t.Searches conflicts) :
    (compareSearches searches).2 = .ok () := by
  unfold compareSearches
  split
  · rfl
  · next reference others hcomplete =>
    have hexact : ∀ t ∈ reference :: others,
        Enumerates (IsMinimalHittingSet conflicts) t.result.minimalHittingSets := by
      intro t ht
      rw [← hcomplete] at ht
      obtain ⟨ht, hcomplete⟩ := List.mem_filter.mp ht
      exact (h t ht).enumerates hcomplete
    obtain ⟨hreference, hothers⟩ := List.forall_mem_cons.mp hexact
    have hnone : (others.find? fun t =>
        t.result.minimalHittingSets != reference.result.minimalHittingSets) = none := by
      rw [List.find?_eq_none]
      intro t ht
      rw [(hothers t ht).unique hreference, bne_self_eq_false]
      exact Bool.false_ne_true
    simp only [hnone]

/-- Searches that were stopped do not enter a comparison. -/
theorem compareSearches_filter (searches : List TimedSearch) :
    compareSearches (searches.filter fun t => t.result.isComplete) = compareSearches searches := by
  unfold compareSearches
  rw [List.filter_filter]
  simp only [Bool.and_self]

end Comparison

/-! ### Runs -/

section Run

variable {s : Surroundings} {o : Options} {content : Option ByteArray}

/-- What follows the extraction does not fail. -/
theorem conclude_snd {conflicts : List ComponentSet} {searches : List TimedSearch}
    (h : ∀ t ∈ searches, t.Searches conflicts) : (conclude o conflicts searches).2 = .ok () := by
  unfold conclude
  split
  · rfl
  · split
    · have hcompare := compareSearches_snd h
      cases hsearches : compareSearches searches with
      | mk out outcome =>
          rw [hsearches] at hcompare
          cases hcompare
          rfl
    · split <;> rfl

/-- A run that extracts conflict sets goes on with searches of them. -/
theorem run_of_prepare {conflicts : List ComponentSet}
    (h : (prepare o content).2 = .ok conflicts) :
    ∃ searches : List TimedSearch, (∀ t ∈ searches, t.Searches conflicts) ∧
      run s o content = .of ((prepare o content).1 ++ (conclude o conflicts searches).1)
        (conclude o conflicts searches).2 := by
  unfold run
  split
  · next out error hprepare =>
    rw [hprepare] at h
    cases h
  · next out found hprepare =>
    rw [hprepare] at h ⊢
    cases h
    refine ⟨_, ?_, rfl⟩
    split
    · exact fun t ht => (by cases ht)
    · exact List.forall_mem_map.mpr fun heuristic _ => searches_searchIn s o conflicts heuristic

theorem read_of_text {text : String} (h : content.bind String.fromUTF8? = some text) :
    CircuitFile.read content = (parse text).mapError .invalid := by
  unfold CircuitFile.read
  rw [h]

theorem prepare_of_parse {text : String} {r : ObservedCircuit} {conflicts : List ComponentSet}
    (hcontent : content.bind String.fromUTF8? = some text) (hparse : parse text = .ok r)
    (hconflicts : extractConflicts r.circuit r.observations = .ok conflicts) :
    (prepare o content).2 = .ok conflicts := by
  have hread : CircuitFile.read content = .ok r := by
    rw [read_of_text hcontent, hparse]
    rfl
  unfold extractConflicts at hconflicts
  simp only [prepare, hread, hconflicts]

/-- A run ends well if its file is accepted. -/
theorem code_run_of_parse {text : String} {r : ObservedCircuit}
    (hcontent : content.bind String.fromUTF8? = some text) (hparse : parse text = .ok r) :
    (run s o content).code = 0 := by
  obtain ⟨⟨conflicts, hconflicts⟩, _⟩ := (ObservedCircuit.WellFormed.of_parse hparse).extracts
  obtain ⟨searches, hsearches, hrun⟩ :=
    run_of_prepare (s := s) (o := o) (prepare_of_parse hcontent hparse hconflicts)
  rw [hrun, conclude_snd hsearches]
  rfl

/-- A run of a file that is refused says why and does nothing else. -/
theorem run_of_read_error {e : FileError} (h : CircuitFile.read content = .error e) :
    run s o content =
      ⟨1, "", [.loggingConfigured, .executionFailed (ProgramError.invalidCircuit e).message]⟩ := by
  simp only [run, prepare, h]
  rfl

end Run

/-! ### The program -/

/-- The answer of the program to a file that it refuses: nothing but the error, and with `verbose`
the line that every run begins with. -/
def refusal (o : Options) (e : FileError) : Response where
  code := 1
  text := ""
  errors := (if o.verbose then "% INFO: Logging successfully configured\n" else "") ++
    "% ERROR: Execution failed, error: " ++ (ProgramError.invalidCircuit e).message ++ "\n"

section Program

variable {s : Surroundings} {files : String → Option ByteArray} {arguments : List String}
  {o : Options}

theorem respondIn_eq (h : readArguments arguments = .ok (.run o)) :
    respondIn s files arguments =
      let result := run s o (files o.path)
      ⟨result.code, result.text, shownLog o result.events⟩ := by
  unfold respondIn respond
  rw [h]
  rfl

theorem shownLog_refused (o : Options) (reason : String) :
    shownLog o [.loggingConfigured, .executionFailed reason] =
      (if o.verbose then "% INFO: Logging successfully configured\n" else "") ++
        "% ERROR: Execution failed, error: " ++ reason ++ "\n" := by
  have hinfo : "% INFO: Logging successfully configured\n" =
      "% " ++ "INFO" ++ ": " ++ "Logging successfully configured" ++ "\n" := by decide
  have herror : "% ERROR: Execution failed, error: " =
      "% " ++ "ERROR" ++ ": " ++ "Execution failed, error: " := by decide
  unfold shownLog Options.level
  rw [hinfo, herror]
  cases o.verbose with
  | true =>
      change String.join ["% " ++ "INFO" ++ ": " ++ "Logging successfully configured" ++ "\n",
        "% " ++ "ERROR" ++ ": " ++ ("Execution failed, error: " ++ reason) ++ "\n"] = _
      simp only [String.join_cons, String.join_nil, String.append_assoc, String.append_empty,
        if_true]
  | false =>
      change String.join
        ["% " ++ "ERROR" ++ ": " ++ ("Execution failed, error: " ++ reason) ++ "\n"] = _
      simp only [String.join_cons, String.join_nil, String.append_assoc, String.append_empty,
        String.empty_append, Bool.false_eq_true, if_false]

theorem respondIn_of_read_error (h : readArguments arguments = .ok (.run o)) {e : FileError}
    (he : CircuitFile.read (files o.path) = .error e) :
    respondIn s files arguments = refusal o e := by
  rw [respondIn_eq h, run_of_read_error he]
  simp only [shownLog_refused]
  rfl

end Program

/-- **The exit code tells whether the file was accepted.** Let the arguments ask for a run, with
whatever options. If the file is a text that is read as a circuit then the exit code is zero: the
extraction finds the conflict sets and asks as often as it should. If the text is refused, or the
file is no text or cannot be read, then the exit code is one and nothing but the error is written.

Whatever searches of some conflict sets are made, with any selectors and stop rules, the program
does not fail on them; its own searches are such. Any two complete ones list the same minimal
hitting sets, and those that were stopped do not enter a comparison. -/
theorem respondIn_of_run (arguments : List String) (o : Options) (s : Surroundings)
    (files : String → Option ByteArray) (h : readArguments arguments = .ok (.run o)) :
    (∀ text r, (files o.path).bind String.fromUTF8? = some text → parse text = .ok r →
      (respondIn s files arguments).code = 0 ∧
        (∃ conflicts, extractConflicts r.circuit r.observations = .ok conflicts) ∧
        (Extractor.extract ⟨(), {}⟩ solverOracle r.circuit r.observations).passesCountCheck
          r.circuit = true) ∧
    (∀ text e, (files o.path).bind String.fromUTF8? = some text → parse text = .error e →
      respondIn s files arguments = refusal o (.invalid e)) ∧
    ((files o.path).bind String.fromUTF8? = none →
      respondIn s files arguments = refusal o .unreadable) ∧
    (∀ conflicts heuristic, (searchIn s o conflicts heuristic).Searches conflicts) ∧
    ∀ (conflicts : List ComponentSet) (searches : List TimedSearch),
      (∀ t ∈ searches, t.Searches conflicts) →
        (conclude o conflicts searches).2 = .ok () ∧ (compareSearches searches).2 = .ok () ∧
        compareSearches (searches.filter fun t => t.result.isComplete) =
          compareSearches searches ∧
        ∀ t ∈ searches, ∀ u ∈ searches, t.result.isComplete = true → u.result.isComplete = true →
          t.result.minimalHittingSets = u.result.minimalHittingSets := by
  refine ⟨fun text r htext hparse => ?_, fun text e htext hparse => ?_, fun hunreadable => ?_,
    searches_searchIn s o, ?_⟩
  · rw [respondIn_eq h]
    exact ⟨code_run_of_parse htext hparse, (ObservedCircuit.WellFormed.of_parse hparse).extracts⟩
  · refine respondIn_of_read_error h ?_
    rw [read_of_text htext, hparse]
    rfl
  · refine respondIn_of_read_error h ?_
    unfold CircuitFile.read
    rw [hunreadable]
  · intro conflicts searches hsearches
    refine ⟨conclude_snd hsearches, compareSearches_snd hsearches,
      compareSearches_filter searches, fun t ht u hu htcomplete hucomplete => ?_⟩
    exact ((hsearches t ht).enumerates htcomplete).unique
      ((hsearches u hu).enumerates hucomplete)

/-- The content of a file with a text. -/
theorem bind_fromUTF8?_toUTF8 (text : String) :
    (some text.toUTF8).bind String.fromUTF8? = some text :=
  dif_pos text.isValidUTF8

/-- A gate that does not work, a file without any section, and no file; and a comparison under a node
limit that two of the heuristics keep. -/
theorem respondIn_of_run_compare :
    let text := "COMPONENTS:\nANDG(A)\nENDCOMPONENTS\nBEHAVIOUR:\nENDBEHAVIOUR\n" ++
      "OBSERVATIONS:\nIN1(A)=1\nIN2(A)=1\nENDOBSERVATIONS\n" ++
      "OUTOBSERVATIONS:\nOUT(A)=0\nENDOUTOBSERVATIONS\n"
    let blank := ""
    let arguments := ["--compare-heuristics", "--node-limit", "4", "--random-seed=7", "gate"]
    let o : Options :=
      { path := "gate", seed := some 7, nodeLimit := some 4, compareHeuristics := true }
    let s := Surroundings.still (.ofSeed 0)
    let searches := Heuristic.all.map (searchIn s o [.ofList ["A"], .ofList ["B", "C"]])
    readArguments arguments = .ok (.run o) ∧
      (respondIn s (fun _ => some text.toUTF8) arguments).code = 0 ∧
      respondIn s (fun _ => some blank.toUTF8) arguments = ⟨1, "", "% ERROR: Execution failed, " ++
        "error: The circuit file was invalid, more details: missing COMPONENTS section\n"⟩ ∧
      respondIn s (fun _ => none) arguments = ⟨1, "", "% ERROR: Execution failed, error: " ++
        "The circuit file was invalid, more details: failed to read circuit file\n"⟩ ∧
      searches.map (fun t => t.result.isComplete) = [true, true, false] ∧
      (compareSearches searches).2 = .ok () := by
  intro text blank arguments o s searches
  have harguments : readArguments arguments = .ok (.run o) := by decide +kernel
  have hvalue : (parse text).toOption.map (fun r => r.circuit.size) = some 1 := by decide +kernel
  obtain ⟨r, hparse, _⟩ := exists_ok_of_map_toOption hvalue
  have hempty : parse blank = .error (.missingSection .components) := rfl
  obtain ⟨haccepted, _⟩ :=
    respondIn_of_run arguments o s (fun _ => some text.toUTF8) harguments
  obtain ⟨_, hrefused, _⟩ := respondIn_of_run arguments o s (fun _ => some blank.toUTF8) harguments
  obtain ⟨_, _, hmissing, hown, hsearches⟩ :=
    respondIn_of_run arguments o s (fun _ => none) harguments
  refine ⟨harguments, (haccepted text r (bind_fromUTF8?_toUTF8 text) hparse).1, ?_, ?_, ?_, ?_⟩
  · rw [hrefused blank _ (bind_fromUTF8?_toUTF8 blank) hempty]
    decide +kernel
  · rw [hmissing rfl]
    decide +kernel
  · decide +kernel
  · exact (hsearches _ searches (List.forall_mem_map.mpr fun heuristic _ => hown _ heuristic)).2.1

end CommandLine

end CircuitDiagnosis
