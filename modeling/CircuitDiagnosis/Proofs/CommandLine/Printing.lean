import CircuitDiagnosis.Proofs.CommandLine.ExitCode
import CircuitDiagnosis.Proofs.HittingSet.Support
import CircuitDiagnosis.Proofs.Statistics.Casing

/-!
# What is printed

Everything that the program prints is made of lines: titles, sets of components, numbers of visited
nodes, spans of time and statistics hold no line feed, if the identifiers hold none. None of these
lines is the one that reports that all components work (`healthReport`): a title ends with a colon,
and most other lines begin with another letter. So the report is printed by a run that extracted no
conflict set, and by no other (`healthReport_mem_lines_iff`).
-/

namespace CircuitDiagnosis

open OrdSet Text

/-! ### Texts on one line -/

theorem lineFeed_not_mem_append {a b : String} (ha : '\n' ∉ a.toList) (hb : '\n' ∉ b.toList) :
    '\n' ∉ (a ++ b).toList := by
  rw [String.toList_append, List.mem_append, not_or]
  exact ⟨ha, hb⟩

theorem lineFeed_not_mem_intercalate {sep : String} {l : List String} (hsep : '\n' ∉ sep.toList)
    (hl : ∀ t ∈ l, '\n' ∉ t.toList) : '\n' ∉ (sep.intercalate l).toList := by
  rw [String.toList_intercalate]
  exact not_mem_intercalate hsep (List.forall_mem_map.mpr hl)

theorem lineFeed_not_mem_toDigits (n : Nat) : '\n' ∉ Nat.toDigits 10 n := fun h =>
  absurd (Nat.isDigit_of_mem_toDigits (by decide) (by decide) h) (by decide)

theorem lineFeed_not_mem_toString (n : Nat) : '\n' ∉ (toString n).toList := by
  rw [Nat.toString_eq_ofList_toDigits, String.toList_ofList]
  exact lineFeed_not_mem_toDigits n

theorem Duration.lineFeed_not_mem_decimals (places part : Nat) :
    '\n' ∉ Duration.decimals places part := by
  intro h
  have hdrop := (List.dropWhile_suffix _).subset (List.mem_reverse.mp h)
  exact lineFeed_not_mem_toDigits _ (List.mem_of_mem_tail (List.mem_reverse.mp hdrop))

theorem Duration.lineFeed_not_mem_inUnit (nanoseconds places : Nat) {unit : String}
    (h : '\n' ∉ unit.toList) : '\n' ∉ (Duration.inUnit nanoseconds places unit).toList := by
  have hwhole := lineFeed_not_mem_toString (nanoseconds / Nat.pow 10 places)
  have hpart := Duration.lineFeed_not_mem_decimals places (nanoseconds % Nat.pow 10 places)
  unfold Duration.inUnit
  split
  · exact lineFeed_not_mem_append hwhole h
  · rw [← String.toList_ofList (l := Duration.decimals places _)] at hpart
    exact lineFeed_not_mem_append (lineFeed_not_mem_append
      (lineFeed_not_mem_append hwhole (by decide)) hpart) h

theorem Duration.lineFeed_not_mem_text (d : Duration) : '\n' ∉ d.text.toList := by
  unfold Duration.text
  split_ifs <;> exact Duration.lineFeed_not_mem_inUnit _ _ (by decide)

namespace CommandLine

/-! ### Lines other than the report -/

/-- The line that reports that all components work. -/
def healthReport : String := "The circuit works correctly, there are no faulty components!"

theorem head?_healthReport : healthReport.toList.head? = some 'T' := by decide

theorem lineFeed_not_mem_healthReport : '\n' ∉ healthReport.toList := by decide

/-- The text consists of lines, none of which reports that all components work. -/
def LacksReport (text : String) : Prop :=
  ConsistsOf (fun line => line ≠ healthReport.toList) text.toList

theorem lacksReport_empty : LacksReport "" := consistsOf_nil _

theorem lacksReport_line {line : String} (hfeed : '\n' ∉ line.toList)
    (hne : line.toList ≠ healthReport.toList) : LacksReport (line ++ "\n") := by
  rw [LacksReport, String.toList_append]
  exact consistsOf_line hfeed hne

/-- The text is on one line and begins with another letter than the report. -/
structure BeginsOtherwise (text : String) : Prop where
  feed : '\n' ∉ text.toList
  head : (text.toList.head?.any fun c => c != 'T') = true

theorem BeginsOtherwise.append {a b : String} (ha : BeginsOtherwise a) (hb : '\n' ∉ b.toList) :
    BeginsOtherwise (a ++ b) := by
  refine ⟨lineFeed_not_mem_append ha.feed hb, ?_⟩
  have hhead := ha.head
  rw [String.toList_append]
  cases hlist : a.toList with
  | nil =>
      rw [hlist] at hhead
      cases hhead
  | cons c cs =>
      rw [hlist] at hhead
      exact hhead

theorem BeginsOtherwise.lacksReport {line : String} (h : BeginsOtherwise line) :
    LacksReport (line ++ "\n") := by
  refine lacksReport_line h.feed fun he => ?_
  have hhead := h.head
  rw [he, head?_healthReport] at hhead
  cases hhead

theorem LacksReport.append {a b : String} (ha : LacksReport a) (hb : LacksReport b) :
    LacksReport (a ++ b) := by
  rw [LacksReport, String.toList_append]
  exact ConsistsOf.append ha hb

theorem LacksReport.join {l : List String} (h : ∀ a ∈ l, LacksReport a) :
    LacksReport (String.join l) := by
  rw [LacksReport, String.toList_join]
  exact ConsistsOf.flatMap h

theorem LacksReport.not_mem {text : String} (h : LacksReport text) :
    healthReport.toList ∉ splitLines text.toList := by
  intro hmem
  refine h.of_mem_splitLines hmem (fun hnil => ?_) rfl
  have hhead := head?_healthReport
  rw [hnil] at hhead
  cases hhead

/-- A report between other lines is found. -/
theorem healthReport_mem_between {before after : String} (hbefore : LacksReport before)
    (hafter : LacksReport after) :
    healthReport.toList ∈ splitLines (before ++ (healthReport ++ "\n") ++ after).toList := by
  rw [String.toList_append, String.toList_append, String.toList_append]
  exact mem_splitLines_between hbefore hafter lineFeed_not_mem_healthReport

namespace Output

theorem lacksReport_foldl {α : Type} {f : α → Output} {l : List α}
    (h : ∀ x ∈ l, LacksReport (f x).text) (out : Output) (hout : LacksReport out.text) :
    LacksReport (l.foldl (fun out x => out ++ f x) out).text := by
  induction l generalizing out with
  | nil => exact hout
  | cons x rest ih =>
      obtain ⟨hx, hrest⟩ := List.forall_mem_cons.mp h
      exact ih hrest (out ++ f x) (hout.append hx)

/-- A title ends with a colon and a set begins with a brace. -/
theorem lacksReport_sets {title : String} {l : List ComponentSet} (htitle : '\n' ∉ title.toList)
    (hl : ∀ s ∈ l, ∀ i ∈ s, '\n' ∉ i.toList) : LacksReport (sets title l).text := by
  have hhead : LacksReport (title ++ ":" ++ "\n") := by
    refine lacksReport_line (lineFeed_not_mem_append htitle (by decide)) fun he => ?_
    -- A title may begin like the report, but it does not end like it.
    have hlast := congrArg List.getLast? he
    rw [String.toList_append] at hlast
    exact absurd (List.getLast?_concat.symm.trans hlast) (by decide)
  have hset : ∀ s ∈ l, LacksReport (s.text ++ "\n") := by
    intro s hs
    have hbrace : BeginsOtherwise (.singleton '{') := ⟨by decide, by decide⟩
    have hmembers : '\n' ∉ (String.intercalate ", " s.toList).toList :=
      lineFeed_not_mem_intercalate (by decide) (hl s hs)
    exact ((hbrace.append hmembers).append (by decide)).lacksReport
  have hend : title ++ ":\n" = title ++ ":" ++ "\n" := by rw [String.append_assoc]; rfl
  unfold sets
  rw [hend]
  exact hhead.append (LacksReport.join (List.forall_mem_map.mpr hset))

end Output

/-! ### Statistics -/

theorem lacksReport_statisticLine {name value : String} (hname : '\n' ∉ name.toList)
    (hvalue : '\n' ∉ value.toList) :
    LacksReport (StatisticFormat.program.line name value ++ "\n") := by
  have hlead : BeginsOtherwise "%%%diagnose-stat: " := ⟨by decide, by decide⟩
  have hnamed := hlead.append (Casing.lineFeed_not_mem_apply_camel hname)
  exact ((hnamed.append (by decide)).append hvalue).lacksReport

/-- The statistics are off or go to the standard output, and what was written lacks the report. -/
structure LogLacksReport (log : StatisticLog) : Prop where
  output : log.output = none ∨ log.output = some (.plain .program)
  written : LacksReport log.written

theorem LogLacksReport.entry {log : StatisticLog} (h : LogLacksReport log) {name value : String}
    (hname : '\n' ∉ name.toList) (hvalue : '\n' ∉ value.toList) :
    LogLacksReport (log.entry name value) := by
  unfold StatisticLog.entry
  -- The writer of the program refuses no line, so each is written as it is.
  rcases h.output with hnone | hsome
  · rw [hnone]
    exact h
  · rw [hsome]
    exact ⟨h.output, h.written.append (lacksReport_statisticLine hname hvalue)⟩

theorem LogLacksReport.foldl_entry {log : StatisticLog} (h : LogLacksReport log)
    {entries : List (String × String)}
    (hentries : ∀ e ∈ entries, '\n' ∉ e.1.toList ∧ '\n' ∉ e.2.toList) :
    LogLacksReport (entries.foldl (fun log e => log.entry e.1 e.2) log) := by
  induction entries generalizing log with
  | nil => exact h
  | cons e rest ih =>
      obtain ⟨⟨hname, hvalue⟩, hrest⟩ := List.forall_mem_cons.mp hentries
      exact ih (h.entry hname hvalue) hrest

section Statistics

variable (o : Options)

theorem logLacksReport_start :
    LogLacksReport
      (if o.logStatistics then StatisticLog.start.configure (.plain .program) else .start) := by
  split_ifs
  · exact ⟨Or.inr rfl, lacksReport_empty⟩
  · exact ⟨Or.inl rfl, lacksReport_empty⟩

theorem lacksReport_entry {name value : String} (hname : '\n' ∉ name.toList)
    (hvalue : '\n' ∉ value.toList) : LacksReport (o.statistics (.entry name value)).text :=
  ((logLacksReport_start o).entry hname hvalue).written

theorem lacksReport_counters {name : String} {fields : List (String × Nat)}
    (hname : '\n' ∉ name.toList) (hparts : ∀ field ∈ fields, '\n' ∉ field.1.toList) :
    LacksReport (o.statistics (.statistic name (.counters fields))).text := by
  refine ((logLacksReport_start o).foldl_entry fun e he => ?_).written
  obtain ⟨⟨part, count⟩, hfield, rfl⟩ := List.mem_map.mp he
  exact ⟨lineFeed_not_mem_append (lineFeed_not_mem_append hname (by decide)) (hparts _ hfield),
    lineFeed_not_mem_toString count⟩

theorem lacksReport_extraction (s : ExtractionStatistics) :
    LacksReport (o.statistics (.statistic "extraction" s.statistic)).text := by
  refine lacksReport_counters o (by decide) ?_
  simp only [List.forall_mem_cons]
  decide

theorem lacksReport_search (heuristic : Heuristic) (s : SearchStatistics) :
    LacksReport (o.statistics (.statistic ("search_" ++ heuristic.name) s.statistic)).text := by
  refine lacksReport_counters o ?_ ?_
  · cases heuristic <;> decide
  · simp only [List.forall_mem_cons]
    decide

theorem lacksReport_closing : LacksReport (o.statistics .closing).text := by
  unfold Options.statistics
  split_ifs
  · have hline : BeginsOtherwise "%%%diagnose-stat-end" := ⟨by decide, by decide⟩
    exact hline.lacksReport
  · exact lacksReport_empty

end Statistics

/-! ### Searches -/

section Searches

variable {conflicts : List ComponentSet} (hplain : ∀ c ∈ conflicts, ∀ i ∈ c, '\n' ∉ i.toList)

include hplain

theorem lineFeed_not_mem_of_subset_union {s : ComponentSet} (h : s ⊆ union conflicts) :
    ∀ i ∈ s, '\n' ∉ i.toList := by
  intro i hi
  obtain ⟨c, hc, hic⟩ := mem_union.mp (h i hi)
  exact hplain c hc i hic

section Search

variable {t : TimedSearch} (ht : t.Searches conflicts)

include ht

theorem lineFeed_not_mem_hittingSets : ∀ s ∈ t.result.hittingSets, ∀ i ∈ s, '\n' ∉ i.toList := by
  obtain ⟨σ, τ, selector, choices, rule, stop, hresult⟩ := ht
  intro s hs
  change s ∈ t.untimed.hittingSets at hs
  rw [hresult] at hs
  exact lineFeed_not_mem_of_subset_union hplain
    (subset_union_of_mem_search conflicts selector choices rule stop hs)

theorem lineFeed_not_mem_minimalHittingSets :
    ∀ s ∈ t.result.minimalHittingSets, ∀ i ∈ s, '\n' ∉ i.toList := by
  have hsets := lineFeed_not_mem_hittingSets hplain ht
  obtain ⟨σ, τ, selector, choices, rule, stop, hresult⟩ := ht
  intro s hs
  refine hsets s ?_
  change s ∈ t.untimed.minimalHittingSets at hs
  change s ∈ t.untimed.hittingSets
  rw [hresult] at hs ⊢
  exact mem_hittingSets_of_mem_minimalHittingSets conflicts selector choices rule stop hs

theorem lacksReport_minimalHittingSets :
    LacksReport (Output.sets "Minimal hitting sets" t.result.minimalHittingSets).text :=
  Output.lacksReport_sets (by decide) (lineFeed_not_mem_minimalHittingSets hplain ht)

theorem lacksReport_details : LacksReport t.details.text := by
  have hsets : LacksReport (Output.sets "Hitting sets" t.result.hittingSets).text :=
    Output.lacksReport_sets (by decide) (lineFeed_not_mem_hittingSets hplain ht)
  have hvisited : LacksReport (Output.line
      s!"Nodes visited: {t.result.statistics.nodesVisited}, time: {t.elapsed.text}").text := by
    have hlead : BeginsOtherwise "Nodes visited: " := ⟨by decide, by decide⟩
    have hnumber := hlead.append (lineFeed_not_mem_toString t.result.statistics.nodesVisited)
    exact ((hnumber.append (by decide)).append t.elapsed.lineFeed_not_mem_text).lacksReport
  have hpartial : LacksReport
      (Output.line "The search was stopped before completion, the result is partial.").text :=
    lacksReport_line (by decide) (by decide)
  have hcommon := (hsets.append (lacksReport_minimalHittingSets hplain ht)).append hvisited
  unfold TimedSearch.details
  split_ifs
  · exact hcommon.append lacksReport_empty
  · exact hcommon.append hpartial

end Search

end Searches

theorem lacksReport_summary (t : TimedSearch) : LacksReport t.summary.text := by
  have hname : BeginsOtherwise t.heuristic.name := by
    cases t.heuristic <;> exact ⟨by decide, by decide⟩
  have hvisited : BeginsOtherwise
      s!"{t.heuristic.name}: {t.result.statistics.nodesVisited} nodes visited in " :=
    ((hname.append (by decide)).append (lineFeed_not_mem_toString _)).append (by decide)
  have hfound : '\n' ∉
      s!"{t.elapsed.text}, {t.result.minimalHittingSets.length} minimal hitting sets".toList :=
    lineFeed_not_mem_append (lineFeed_not_mem_append
      (lineFeed_not_mem_append t.elapsed.lineFeed_not_mem_text (by decide))
      (lineFeed_not_mem_toString _)) (by decide)
  have hend : '\n' ∉ (if t.result.isComplete then "" else " (partial)").toList := by
    split_ifs <;> decide
  exact ((hvisited.append hfound).append hend).lacksReport

theorem lacksReport_report (o : Options) (conflicts : List ComponentSet) (t : TimedSearch) :
    LacksReport (t.report o conflicts).text :=
  lacksReport_empty.append (lacksReport_search o t.heuristic t.result.statistics)

/-! ### The run -/

section Run

variable {o : Options} {conflicts : List ComponentSet}
  (hplain : ∀ c ∈ conflicts, ∀ i ∈ c, '\n' ∉ i.toList)

include hplain

theorem lacksReport_compareSearches {searches : List TimedSearch}
    (h : ∀ t ∈ searches, t.Searches conflicts) :
    LacksReport (compareSearches searches).1.text := by
  unfold compareSearches
  split
  · exact lacksReport_empty
  · next reference others hcomplete =>
    have hreference : reference ∈ searches :=
      (List.mem_filter.mp (hcomplete ▸ List.mem_cons_self)).1
    dsimp only
    split
    · exact lacksReport_empty
    · exact lacksReport_minimalHittingSets hplain (h reference hreference)

theorem lacksReport_exhaust : LacksReport (exhaust o conflicts).text := by
  have hsets : ∀ s ∈ (bruteForce conflicts).hittingSets, ∀ i ∈ s, '\n' ∉ i.toList :=
    fun s hs => lineFeed_not_mem_of_subset_union hplain (subset_union_of_mem_bruteForce hs)
  have htested : LacksReport (o.statistics (.entry "bruteForceCombinationsTested"
      (toString (bruteForce conflicts).combinationsTested))).text :=
    lacksReport_entry o (by decide) (lineFeed_not_mem_toString _)
  exact ((lacksReport_empty.append htested).append
    (Output.lacksReport_sets (by decide) hsets)).append
      (Output.lacksReport_sets (by decide) fun s hs =>
        hsets s (mem_hittingSets_of_mem_bruteForce hs))

/-- What follows the conflict sets lacks the report if there are any. -/
theorem lacksReport_conclude (hne : conflicts ≠ []) {searches : List TimedSearch}
    (h : ∀ t ∈ searches, t.Searches conflicts) :
    LacksReport (conclude o conflicts searches).1.text := by
  have hreports := Output.lacksReport_foldl
    (fun t (_ : t ∈ searches) => lacksReport_report o conflicts t) {} lacksReport_empty
  have hsummaries := Output.lacksReport_foldl
    (fun t (_ : t ∈ searches) => lacksReport_summary t) {} lacksReport_empty
  have hdetails := Output.lacksReport_foldl
    (fun t ht => lacksReport_details hplain (h t ht)) {} lacksReport_empty
  have hcompared := lacksReport_compareSearches hplain h
  unfold conclude
  rw [if_neg (by simpa using hne)]
  dsimp only
  split
  · cases hsearches : compareSearches searches with
    | mk out outcome =>
        rw [hsearches] at hcompared
        cases outcome with
        | error error => exact (hreports.append hsummaries).append hcompared
        | ok _ =>
            exact ((hreports.append hsummaries).append hcompared).append (lacksReport_closing o)
  · split
    · exact (hreports.append hdetails).append (lacksReport_closing o)
    · exact (lacksReport_exhaust hplain).append (lacksReport_closing o)

/-- What stands before the end of a run lacks the report. -/
theorem lacksReport_prepare {content : Option ByteArray}
    (h : (prepare o content).2 = .ok conflicts) : LacksReport (prepare o content).1.text := by
  unfold prepare at h ⊢
  cases hread : CircuitFile.read content with
  | error error =>
      rw [hread] at h
      cases h
  | ok r =>
      rw [hread] at h
      dsimp only at h ⊢
      cases houtcome :
        (Extractor.extract ⟨(), {}⟩ solverOracle r.circuit r.observations).outcome with
      | error error =>
          rw [houtcome] at h
          cases h
      | ok found =>
          rw [houtcome] at h
          cases h
          exact (lacksReport_empty.append (lacksReport_extraction o _)).append
            (Output.lacksReport_sets (by decide) hplain)

end Run

/-- The report is a line of what a run prints if it extracted no conflict sets, and only then. -/
theorem healthReport_mem_lines_iff {o : Options} {content : Option ByteArray}
    {conflicts : List ComponentSet} {searches : List TimedSearch}
    (hplain : ∀ c ∈ conflicts, ∀ i ∈ c, '\n' ∉ i.toList)
    (hprepare : (prepare o content).2 = .ok conflicts)
    (hsearches : ∀ t ∈ searches, t.Searches conflicts) :
    healthReport.toList ∈ splitLines
        ((prepare o content).1 ++ (conclude o conflicts searches).1).text.toList ↔
      conflicts = [] := by
  have hbefore := lacksReport_prepare hplain hprepare
  constructor
  · intro hmem
    by_contra hne
    exact (hbefore.append (lacksReport_conclude hplain hne hsearches)).not_mem hmem
  · rintro rfl
    have hmem := healthReport_mem_between hbefore (lacksReport_closing o)
    rw [String.append_assoc] at hmem
    exact hmem

end CommandLine

end CircuitDiagnosis
