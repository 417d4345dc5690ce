import CircuitDiagnosis.Proofs.CommandLine.Printing
import CircuitDiagnosis.Proofs.Conflict.Generation

/-!
# When the program says that the circuit works

Every other query of an extraction assumes less than the one about the circuit as a whole, so there
is a conflict set if and only if not all components can be healthy; of a circuit without components
nothing is asked, but then nothing was observed of it either
(`ObservedCircuit.WellFormed.conflicts_eq_nil_iff`). A run prints that the circuit works if there is
no conflict set, and only then (`healthReport_iff_satisfiable`).
-/

namespace CircuitDiagnosis

open CircuitFile OrdSet Text

/-- There is no conflict set exactly if all components can be healthy. The empty set of components
is never asked about, so if it is all there is then nothing may be observed. -/
theorem conflicts_eq_nil_iff_consistent {circuit : Circuit} {observations : List Observation}
    {conflicts : List ComponentSet}
    (hconflicts : Enumerates (IsMinimalConflict circuit observations) conflicts)
    (hempty : circuit.all = ∅ → observations = []) :
    conflicts = [] ↔ (Query.assuming circuit observations circuit.all).Consistent := by
  constructor
  · intro hnil
    by_contra hnot
    by_cases hall : circuit.all = ∅
    · rw [hempty hall, hall] at hnot
      exact hnot (Query.consistent_assuming_empty circuit fun _ h => (by cases h))
    · -- All components are a candidate, and one that is rejected contains a conflict set.
      obtain ⟨_, c, hc, _⟩ :=
        (exists_conflict_subset_iff hconflicts).mpr ⟨hall, subset_refl _, hnot⟩
      rw [hnil] at hc
      cases hc
  · intro hconsistent
    refine List.eq_nil_iff_forall_not_mem.mpr fun c hc => ?_
    obtain ⟨_, hconflict⟩ := ((hconflicts.mem_iff c).mp hc).holds
    exact (hconflict.mono hconflict.1 (subset_refl _)).2 hconsistent

namespace ObservedCircuit.WellFormed

variable {r : ObservedCircuit}

/-- Of a circuit without components nothing is observed. -/
theorem observations_eq_nil (h : r.WellFormed) (hall : r.circuit.all = ∅) :
    r.observations = [] := by
  have hnone : ∀ i, i ∉ r.circuit.ids := by
    intro i hi
    have hmem := Circuit.mem_all.mpr hi
    rw [hall] at hmem
    exact not_mem_empty hmem
  refine List.eq_nil_iff_forall_not_mem.mpr fun o ho => ?_
  obtain ⟨inputs, outputs, heq, hinputs, houtputs⟩ := h.observed
  rw [heq] at ho
  rcases List.mem_append.mp ho with ho' | ho'
  · obtain ⟨name, hname⟩ := hinputs o ho'
    obtain ⟨c, hc, _⟩ := h.inputs_read o (heq ▸ ho) name hname
    exact hnone c.id (List.mem_map_of_mem hc)
  · obtain ⟨i, hi, _⟩ := houtputs o ho'
    exact hnone i hi

/-- An extraction finds no conflict set exactly if all components can be healthy. -/
theorem conflicts_eq_nil_iff (h : r.WellFormed) :
    ∃ conflicts, extractConflicts r.circuit r.observations = .ok conflicts ∧
      (∀ c ∈ conflicts, ∀ i ∈ c, i ∈ r.circuit.ids) ∧
      (conflicts = [] ↔ (Query.assuming r.circuit r.observations r.circuit.all).Consistent) := by
  obtain ⟨conflicts, houtcome, hconflicts⟩ := enumerates_extract ⟨(), {}⟩ h.closed
  refine ⟨conflicts, houtcome, fun c hc i hi => ?_,
    conflicts_eq_nil_iff_consistent hconflicts h.observations_eq_nil⟩
  obtain ⟨_, hsub, _⟩ := ((hconflicts.mem_iff c).mp hc).holds
  exact Circuit.mem_all.mp (hsub i hi)

theorem lineFeed_not_mem_ids (h : r.WellFormed) : ∀ i ∈ r.circuit.ids, '\n' ∉ i.toList := by
  intro i hi hfeed
  have hplain := (h.identifiers i hi).2 '\n' hfeed
  exact absurd hplain (by decide)

end ObservedCircuit.WellFormed

namespace CommandLine

/-- **The program says that the circuit works exactly when it can.** The extraction succeeds on a
circuit that is read from a text. It finds no conflict sets if and only if the solver answers that
all components can be healthy, that is if some values of the signals are computed by all gates and
show everything that was observed.

With whatever arguments the program is run on a file with this text, the line that reports that the
circuit works is in its output if and only if there are no conflict sets. The same holds of whatever
searches stand between the extraction and the conclusion, with any selectors and stop rules and
however long they took. -/
theorem healthReport_iff_satisfiable (text : String) (r : ObservedCircuit)
    (h : parse text = .ok r) :
    ∃ conflicts, extractConflicts r.circuit r.observations = .ok conflicts ∧
      (conflicts = [] ↔
        (solverOracle.ask (.assuming r.circuit r.observations r.circuit.all) ()).verdict =
          .ok .satisfiable) ∧
      (conflicts = [] ↔ ∃ signal : Signal → Bool,
        (∀ c ∈ r.circuit.components, c.Computes signal) ∧
          ∀ o ∈ r.observations, signal o.signal = o.value) ∧
      (∀ (arguments : List String) (o : Options) (s : Surroundings)
        (files : String → Option ByteArray), readArguments arguments = .ok (.run o) →
          (files o.path).bind String.fromUTF8? = some text →
            (healthReport.toList ∈ splitLines (respondIn s files arguments).text.toList ↔
              conflicts = [])) ∧
      ∀ (o : Options) (content : Option ByteArray) (searches : List TimedSearch),
        content.bind String.fromUTF8? = some text → (∀ t ∈ searches, t.Searches conflicts) →
          (prepare o content).2 = .ok conflicts ∧
            (healthReport.toList ∈ splitLines
                ((prepare o content).1 ++ (conclude o conflicts searches).1).text.toList ↔
              conflicts = []) := by
  have hwell := ObservedCircuit.WellFormed.of_parse h
  obtain ⟨conflicts, hextract, hids, hnil⟩ := hwell.conflicts_eq_nil_iff
  have hplain : ∀ c ∈ conflicts, ∀ i ∈ c, '\n' ∉ i.toList := fun c hc i hi =>
    hwell.lineFeed_not_mem_ids i (hids c hc i hi)
  have hprepare : ∀ (o : Options) (content : Option ByteArray),
      content.bind String.fromUTF8? = some text → (prepare o content).2 = .ok conflicts :=
    fun o content hcontent => prepare_of_parse hcontent h hextract
  refine ⟨conflicts, hextract, ?_, ?_, fun arguments o s files hrun hfile => ?_,
    fun o content searches hcontent hsearches => ?_⟩
  · exact hnil.trans (Query.ask_eq_satisfiable_iff (hwell.closed _) ()).symm
  · exact hnil.trans Query.consistent_assuming_all_iff
  · obtain ⟨searches, hsearches, heq⟩ := run_of_prepare (s := s) (hprepare o (files o.path) hfile)
    have hlines := healthReport_mem_lines_iff hplain (hprepare o (files o.path) hfile) hsearches
    rw [respondIn_eq hrun, heq, conclude_snd hsearches]
    exact hlines
  · exact ⟨hprepare o content hcontent,
      healthReport_mem_lines_iff hplain (hprepare o content hcontent) hsearches⟩

/-- The program says that a gate that is fed by itself works, and says so of a circuit without
gates. It does not say so of a gate of which opposite outputs were seen, even if a comparison of the
heuristics is stopped at once. -/
theorem healthReport_iff_satisfiable_cycle :
    let cycle := "COMPONENTS:\nORG(A)\nENDCOMPONENTS\n" ++
      "BEHAVIOUR:\nIN1(A)=OUT(A)\nENDBEHAVIOUR\nOBSERVATIONS:\nIN2(A)=1\nENDOBSERVATIONS\n" ++
      "OUTOBSERVATIONS:\nOUT(A)=1\nENDOUTOBSERVATIONS\n"
    let blank := "COMPONENTS:\nENDCOMPONENTS\nBEHAVIOUR:\nENDBEHAVIOUR\n" ++
      "OBSERVATIONS:\nENDOBSERVATIONS\nOUTOBSERVATIONS:\nENDOUTOBSERVATIONS\n"
    let opposite := "COMPONENTS:\nANDG(A)\nENDCOMPONENTS\nBEHAVIOUR:\nENDBEHAVIOUR\n" ++
      "OBSERVATIONS:\nIN1(A)=1\nIN2(A)=1\nENDOBSERVATIONS\n" ++
      "OUTOBSERVATIONS:\nOUT(A)=0\nOUT(A)=1\nENDOUTOBSERVATIONS\n"
    let arguments := ["circuit", "-s", "--compare-heuristics", "--node-limit", "0"]
    let printed (text : String) := splitLines
      (respondIn (.still (.ofSeed 0)) (fun _ => some text.toUTF8) arguments).text.toList
    healthReport.toList ∈ printed cycle ∧ healthReport.toList ∈ printed blank ∧
      healthReport.toList ∉ printed opposite := by
  intro cycle blank opposite arguments printed
  have harguments : readArguments arguments =
      .ok (.run { path := "circuit", nodeLimit := some 0, compareHeuristics := true,
                  logStatistics := true }) := by
    decide +kernel
  have hreported (text : String) (verdict : Verdict)
      (hvalue : (parse text).toOption.map (fun r =>
        (solverOracle.ask (.assuming r.circuit r.observations r.circuit.all) ()).verdict) =
          some (.ok verdict)) :
      healthReport.toList ∈ printed text ↔ verdict = .satisfiable := by
    obtain ⟨r, hparse, hverdict⟩ := exists_ok_of_map_toOption hvalue
    obtain ⟨conflicts, _, hanswer, _, hrun, _⟩ := healthReport_iff_satisfiable text r hparse
    have hlines := hrun arguments _ (.still (.ofSeed 0)) (fun _ => some text.toUTF8) harguments
      (bind_fromUTF8?_toUTF8 text)
    rw [hverdict, Except.ok.injEq] at hanswer
    exact hlines.trans hanswer
  refine ⟨(hreported cycle .satisfiable ?_).mpr rfl, (hreported blank .satisfiable ?_).mpr rfl,
    fun hmem => ?_⟩
  · decide +kernel
  · decide +kernel
  · cases (hreported opposite .unsatisfiable (by decide +kernel)).mp hmem

end CommandLine

end CircuitDiagnosis
