import CircuitDiagnosis.Proofs.Conflict.Questions

/-!
# Calls of an extractor

An extractor may be called many times, for any circuits, and any of its calls may fail. What the
oracle is asked meanwhile is kept by `Oracle.recorded`, which answers like the oracle itself
(`Extractor.erase_extract`).

A call goes through the candidates in order and ends with the first query that fails (`Answered`).
Hence the oracle is asked about the first ones of the candidates, only the last of them can have
failed, and the outcome is a function of the circuit and of the verdicts alone
(`Answered.conflictsOf_eq`). The counters follow the record of the oracle through each call
(`Extractor.Accounts.extract`) and so through every run of calls (`Extractor.Accounts.after`). Both
together are the account that `extract_accounts_for_queries` gives of a call after any others.
-/

namespace CircuitDiagnosis

open Std OrdSet

universe u

variable {σ : Type u}

/-! ### What an oracle is asked -/

/-- A query that an oracle was asked, and its verdict or why it gave none. -/
structure Exchange where
  query : Query
  verdict : Except OracleError Verdict

/-- Whether a query was found to be unsatisfiable. -/
def rejects : Except OracleError Verdict → Bool
  | .ok .unsatisfiable => true
  | _ => false

/-- The oracle that answers like another one and keeps what it was asked. -/
def Oracle.recorded (oracle : Oracle σ) : Oracle (σ × List Exchange) where
  ask q state :=
    let reply := oracle.ask q state.1
    ⟨reply.verdict, (reply.state, state.2 ++ [⟨q, reply.verdict⟩]), reply.events⟩

/-- The query that an answer is about, with its verdict. -/
def Answer.exchange (circuit : Circuit) (observations : List Observation) (a : Answer) : Exchange :=
  ⟨.assuming circuit observations a.candidate, a.verdict⟩

namespace Extractor

/-- The extractor after some calls in turn. -/
def after (oracle : Oracle σ) (extractor : Extractor σ)
    (calls : List (Circuit × List Observation)) : Extractor σ :=
  calls.foldl (fun e call => (e.extract oracle call.1 call.2).extractor) extractor

/-- The extractor without the record of its oracle. -/
def erase (extractor : Extractor (σ × List Exchange)) : Extractor σ :=
  ⟨extractor.state.1, extractor.statistics⟩

end Extractor

/-- What an oracle is asked in the calls of a new extractor. -/
def Oracle.transcript (oracle : Oracle σ) (state : σ) (calls : List (Circuit × List Observation)) :
    List Exchange :=
  (Extractor.after oracle.recorded ⟨(state, []), {}⟩ calls).state.2

/-- The conflict sets that a call returned; there are none if it failed. -/
def Extraction.conflicts (extraction : Extraction σ) : List ComponentSet :=
  match extraction.outcome with
  | .ok conflicts => conflicts
  | .error _ => []

/-- The outcome of a call whose queries got these verdicts in turn: the error of the last query if
it failed, and else the minimal candidates among those that were rejected. -/
def Circuit.outcomeOf (circuit : Circuit) (verdicts : List (Except OracleError Verdict)) :
    Except ExtractionError (List ComponentSet) :=
  let answered := circuit.candidates.zip verdicts
  match answered.getLast? with
  | some (candidate, .error cause) => .error ⟨candidate, cause⟩
  | _ => .ok (retainMinimal ((answered.filter fun x => rejects x.2).map Prod.fst))

/-- The call asked these queries, and its outcome is the one that their verdicts lead to. -/
structure Extraction.Asks (call : Extraction σ) (circuit : Circuit)
    (observations : List Observation) (asked : List Exchange) : Prop where
  /-- The queries are the first ones of the enumeration of the candidates. -/
  enumerated : asked.map Exchange.query <+:
    circuit.candidates.map (Query.assuming circuit observations)
  /-- Nothing is asked after a query that failed. -/
  stops : ∀ x ∈ asked.dropLast, ∃ v, x.verdict = .ok v
  /-- If no query fails then there is one about each candidate. -/
  exhausts : (∀ x ∈ asked, ∃ v, x.verdict = .ok v) →
    asked.map Exchange.query = circuit.candidates.map (Query.assuming circuit observations)
  fails_iff : (∃ e, call.outcome = .error e) ↔ ∃ x ∈ asked, ∃ cause, x.verdict = .error cause
  /-- The error names the candidate and the cause of the last query. -/
  names_last : ∀ e, call.outcome = .error e →
    asked.getLast? = some ⟨.assuming circuit observations e.candidate, .error e.cause⟩
  determined : call.outcome = circuit.outcomeOf (asked.map Exchange.verdict)

/-! ### The answers of one call -/

/-- The answers about some candidates: each has one in turn, up to the first that says that the
query failed. -/
inductive Answered : List ComponentSet → List Answer → Prop where
  | done : Answered [] []
  | failed {candidates : List ComponentSet} {a : Answer} (h : a.failed = true) :
      Answered (a.candidate :: candidates) [a]
  | verdict {candidates : List ComponentSet} {answers : List Answer} {a : Answer}
      (h : a.failed = false) (rest : Answered candidates answers) :
      Answered (a.candidate :: candidates) (a :: answers)

theorem Oracle.answered_askAll (oracle : Oracle σ) (circuit : Circuit)
    (observations : List Observation) (candidates : List ComponentSet) (state : σ) :
    Answered candidates (oracle.askAll circuit observations candidates state).1 := by
  induction candidates generalizing state with
  | nil => exact .done
  | cons c rest ih =>
      rw [askAll]
      simp only
      split
      · next h => exact .failed h
      · next h => exact .verdict (Bool.eq_false_iff.mpr h) (ih _)

namespace Answered

variable {candidates : List ComponentSet} {answers : List Answer}

/-- The first ones of the candidates were asked about. -/
theorem asked_prefix (h : Answered candidates answers) :
    answers.map Answer.candidate <+: candidates := by
  induction h with
  | done => exact List.prefix_refl []
  | failed => exact List.prefix_append [_] _
  | verdict _ _ ih => exact (List.prefix_cons_inj _).mpr ih

/-- Either no query failed and all candidates were asked about, or the last query failed and no
other did. -/
theorem cases_last (h : Answered candidates answers) :
    (∀ a ∈ answers, a.failed = false) ∧ answers.map Answer.candidate = candidates ∨
      ∃ answered last, answers = answered ++ [last] ∧ (∀ a ∈ answered, a.failed = false) ∧
        last.failed = true := by
  induction h with
  | done => exact Or.inl ⟨fun a ha => (by cases ha), rfl⟩
  | @failed _ a h => exact Or.inr ⟨[], a, rfl, fun a ha => (by cases ha), h⟩
  | @verdict _ _ a h _ ih =>
      rcases ih with ⟨hnone, hall⟩ | ⟨answered, last, rfl, hnone, hlast⟩
      · refine Or.inl ⟨List.forall_mem_cons.mpr ⟨h, hnone⟩, ?_⟩
        rw [List.map_cons, hall]
      · exact Or.inr ⟨a :: answered, last, rfl, List.forall_mem_cons.mpr ⟨h, hnone⟩, hlast⟩

/-- Each candidate that was asked about stands beside its verdict. -/
theorem zip_eq (h : Answered candidates answers) :
    candidates.zip (answers.map Answer.verdict) =
      answers.map fun a => (a.candidate, a.verdict) := by
  induction h with
  | done => rfl
  | failed => rw [List.map_singleton, List.zip_cons_cons, List.zip_nil_right, List.map_singleton]
  | verdict _ _ ih => rw [List.map_cons, List.zip_cons_cons, ih, List.map_cons]

end Answered

theorem Answer.error?_eq_none_iff {a : Answer} : a.error? = none ↔ a.failed = false := by
  unfold error? failed
  cases a.verdict <;> simp

theorem Answer.failed_eq_false_iff {a : Answer} :
    a.failed = false ↔ ∃ v, a.verdict = .ok v := by
  unfold failed
  cases a.verdict <;> simp

theorem Answer.failed_eq_true_iff {a : Answer} :
    a.failed = true ↔ ∃ cause, a.verdict = .error cause := by
  unfold failed
  cases a.verdict <;> simp

/-- If no query failed then the minimal ones of the rejected candidates are returned. -/
theorem conflictsOf_of_not_failed {answers : List Answer} (h : ∀ a ∈ answers, a.failed = false) :
    conflictsOf answers =
      .ok (retainMinimal ((answers.filter Answer.conflicting).map Answer.candidate)) := by
  have hnone : answers.findSome? Answer.error? = none :=
    List.findSome?_eq_none_iff.mpr fun a ha => Answer.error?_eq_none_iff.mpr (h a ha)
  unfold conflictsOf
  rw [hnone]

/-- A query that failed after others that did not gives the error. -/
theorem conflictsOf_of_failed {answered : List Answer} {last : Answer} {cause : OracleError}
    (h : ∀ a ∈ answered, a.failed = false) (hlast : last.verdict = .error cause) :
    conflictsOf (answered ++ [last]) = .error ⟨last.candidate, cause⟩ := by
  have hnone : answered.findSome? Answer.error? = none :=
    List.findSome?_eq_none_iff.mpr fun a ha => Answer.error?_eq_none_iff.mpr (h a ha)
  have herror : last.error? = some ⟨last.candidate, cause⟩ := by
    unfold Answer.error?
    rw [hlast]
  unfold conflictsOf
  rw [List.findSome?_append, hnone, Option.none_or, List.findSome?_singleton, herror]

namespace Answered

variable {candidates : List ComponentSet} {answers : List Answer}

/-- A query is asked only if none before it failed. -/
theorem stops (h : Answered candidates answers) : ∀ a ∈ answers.dropLast, a.failed = false := by
  rcases h.cases_last with ⟨hnone, _⟩ | ⟨answered, last, rfl, hnone, _⟩
  · exact fun a ha => hnone a (List.mem_of_mem_dropLast ha)
  · rw [List.dropLast_concat]
    exact hnone

/-- If no query fails then each candidate is asked about. -/
theorem exhausts (h : Answered candidates answers) (hnone : ∀ a ∈ answers, a.failed = false) :
    answers.map Answer.candidate = candidates := by
  rcases h.cases_last with ⟨_, hall⟩ | ⟨answered, last, rfl, _, hlast⟩
  · exact hall
  · rw [hnone last List.mem_concat_self] at hlast
    cases hlast

/-- The error of a call is that of its last query. -/
theorem exists_last_of_error (h : Answered candidates answers) {e : ExtractionError}
    (he : conflictsOf answers = .error e) :
    ∃ a, answers.getLast? = some a ∧ a.candidate = e.candidate ∧ a.verdict = .error e.cause := by
  rcases h.cases_last with ⟨hnone, _⟩ | ⟨answered, last, rfl, hnone, hlast⟩
  · rw [conflictsOf_of_not_failed hnone] at he
    cases he
  · obtain ⟨cause, hcause⟩ := Answer.failed_eq_true_iff.mp hlast
    rw [conflictsOf_of_failed hnone hcause] at he
    cases he
    exact ⟨last, List.getLast?_concat, rfl, hcause⟩

/-- A call fails exactly if one of its queries does. -/
theorem exists_error_iff (h : Answered candidates answers) :
    (∃ e, conflictsOf answers = .error e) ↔ ∃ a ∈ answers, a.failed = true := by
  constructor
  · rintro ⟨e, he⟩
    obtain ⟨a, hlast, _, hverdict⟩ := h.exists_last_of_error he
    exact ⟨a, List.mem_of_getLast? hlast, Answer.failed_eq_true_iff.mpr ⟨_, hverdict⟩⟩
  · rintro ⟨a, ha, hfailed⟩
    rcases h.cases_last with ⟨hnone, _⟩ | ⟨answered, last, rfl, hnone, hlast⟩
    · rw [hnone a ha] at hfailed
      cases hfailed
    · obtain ⟨cause, hcause⟩ := Answer.failed_eq_true_iff.mp hlast
      exact ⟨_, conflictsOf_of_failed hnone hcause⟩

end Answered

/-- The outcome of a call is a function of the circuit and of the verdicts. -/
theorem Answered.conflictsOf_eq {circuit : Circuit} {answers : List Answer}
    (h : Answered circuit.candidates answers) :
    conflictsOf answers = circuit.outcomeOf (answers.map Answer.verdict) := by
  unfold Circuit.outcomeOf
  simp only [h.zip_eq]
  rcases h.cases_last with ⟨hnone, _⟩ | ⟨answered, last, rfl, hnone, hlast⟩
  · rw [conflictsOf_of_not_failed hnone]
    split
    · next candidate cause hlast =>
      -- The last query did not fail.
      obtain ⟨a, ha, heq⟩ := List.mem_map.mp (List.mem_of_getLast? hlast)
      have hfailed : a.failed = true :=
        Answer.failed_eq_true_iff.mpr ⟨cause, congrArg Prod.snd heq⟩
      rw [hnone a ha] at hfailed
      cases hfailed
    · rw [List.filter_map, List.map_map]
      rfl
  · obtain ⟨cause, hcause⟩ := Answer.failed_eq_true_iff.mp hlast
    rw [conflictsOf_of_failed hnone hcause, List.map_append, List.map_singleton,
      List.getLast?_concat, hcause]

/-! ### The record of one call -/

namespace Oracle

variable (oracle : Oracle σ) (circuit : Circuit) (observations : List Observation)

/-- After a query that failed nothing more is asked. -/
theorem askAll_cons_of_error {c : ComponentSet} {l : List ComponentSet} {state : σ}
    {cause : OracleError}
    (h : (oracle.ask (.assuming circuit observations c) state).verdict = .error cause) :
    oracle.askAll circuit observations (c :: l) state =
      let reply := oracle.ask (.assuming circuit observations c) state
      ([⟨c, .error cause, reply.events⟩], reply.state) := by
  rw [askAll]
  simp only [h]
  rfl

/-- An oracle answers with a record as it answers without, and the record grows by what it was
asked. -/
theorem askAll_recorded (candidates : List ComponentSet) (state : σ) (record : List Exchange) :
    oracle.recorded.askAll circuit observations candidates (state, record) =
      let result := oracle.askAll circuit observations candidates state
      (result.1, (result.2, record ++ result.1.map (Answer.exchange circuit observations))) := by
  induction candidates generalizing state record with
  | nil => simp only [askAll, List.map_nil, List.append_nil]
  | cons c rest ih =>
      cases h : (oracle.ask (.assuming circuit observations c) state).verdict with
      | error cause =>
          have hrecorded : (oracle.recorded.ask (.assuming circuit observations c)
              (state, record)).verdict = .error cause := h
          rw [askAll_cons_of_error _ _ _ h, askAll_cons_of_error _ _ _ hrecorded]
          simp only [recorded, h, List.map_singleton, Answer.exchange]
      | ok v =>
          have hrecorded : (oracle.recorded.ask (.assuming circuit observations c)
              (state, record)).verdict = .ok v := h
          rw [askAll_cons_of_verdict h, askAll_cons_of_verdict hrecorded]
          have hstate : (oracle.recorded.ask (.assuming circuit observations c)
              (state, record)).state = ((oracle.ask (.assuming circuit observations c) state).state,
                record ++ [⟨.assuming circuit observations c, .ok v⟩]) := by
            rw [← h]
            rfl
          simp only [hstate, ih, List.map_cons, List.append_assoc, List.singleton_append]
          rfl

end Oracle

namespace Extractor

variable (extractor : Extractor (σ × List Exchange)) (oracle : Oracle σ) (circuit : Circuit)
  (observations : List Observation)

theorem answered_extract (extractor : Extractor σ) :
    Answered circuit.candidates (extractor.extract oracle circuit observations).answers := by
  unfold extract
  simp only [Oracle.askSizes_eq_askAll]
  exact oracle.answered_askAll circuit observations _ extractor.state

/-- What a call asks is what it has answers to. -/
theorem asks_extract (extractor : Extractor σ) :
    let call := extractor.extract oracle circuit observations
    call.Asks circuit observations (call.answers.map (Answer.exchange circuit observations)) := by
  intro call
  have hanswered : Answered circuit.candidates call.answers :=
    answered_extract oracle circuit observations extractor
  have hqueries : (call.answers.map (Answer.exchange circuit observations)).map Exchange.query =
      (call.answers.map Answer.candidate).map (Query.assuming circuit observations) := by
    rw [List.map_map, List.map_map]
    rfl
  have hverdicts : (call.answers.map (Answer.exchange circuit observations)).map
      Exchange.verdict = call.answers.map Answer.verdict := List.map_map
  refine ⟨?_, ?_, ?_, ?_, ?_, ?_⟩
  · rw [hqueries]
    exact hanswered.asked_prefix.map _
  · rw [← List.map_dropLast, List.forall_mem_map]
    exact fun a ha => Answer.failed_eq_false_iff.mp (hanswered.stops a ha)
  · rw [List.forall_mem_map, hqueries]
    intro hnone
    rw [hanswered.exhausts fun a ha => Answer.failed_eq_false_iff.mpr (hnone a ha)]
  · refine hanswered.exists_error_iff.trans ?_
    simp only [Answer.failed_eq_true_iff, List.mem_map, exists_exists_and_eq_and]
    rfl
  · intro e he
    obtain ⟨a, hlast, hcandidate, hverdict⟩ := hanswered.exists_last_of_error he
    rw [List.getLast?_map, hlast, ← hcandidate, ← hverdict]
    rfl
  · rw [hverdicts]
    exact hanswered.conflictsOf_eq

/-- A call with a record has the outcome of the call without. -/
theorem extract_recorded :
    let call := extractor.erase.extract oracle circuit observations
    let recorded := extractor.extract oracle.recorded circuit observations
    recorded.outcome = call.outcome ∧ recorded.extractor.erase = call.extractor ∧
      recorded.extractor.state.2 =
        extractor.state.2 ++ call.answers.map (Answer.exchange circuit observations) := by
  obtain ⟨⟨state, record⟩, statistics⟩ := extractor
  unfold extract erase
  simp only [Oracle.askSizes_eq_askAll, Oracle.askAll_recorded, and_self]

end Extractor

/-! ### The record of a run of calls -/

namespace Extractor

theorem after_append_singleton (oracle : Oracle σ) (extractor : Extractor σ)
    (calls : List (Circuit × List Observation)) (circuit : Circuit)
    (observations : List Observation) :
    extractor.after oracle (calls ++ [(circuit, observations)]) =
      ((extractor.after oracle calls).extract oracle circuit observations).extractor := by
  unfold after
  rw [List.foldl_append]
  rfl

theorem extractAll_append_singleton (oracle : Oracle σ) (extractor : Extractor σ)
    (calls : List (Circuit × List Observation)) (circuit : Circuit)
    (observations : List Observation) :
    extractAll oracle (calls ++ [(circuit, observations)]) extractor =
      extractAll oracle calls extractor ++
        [(extractor.after oracle calls).extract oracle circuit observations] := by
  induction calls generalizing extractor with
  | nil => rfl
  | cons call rest ih =>
      rw [List.cons_append, extractAll, ih, extractAll]
      rfl

theorem erase_after (oracle : Oracle σ) (extractor : Extractor (σ × List Exchange))
    (calls : List (Circuit × List Observation)) :
    (extractor.after oracle.recorded calls).erase = extractor.erase.after oracle calls := by
  induction calls generalizing extractor with
  | nil => rfl
  | cons call rest ih =>
      refine (ih _).trans ?_
      rw [(extractor.extract_recorded oracle call.1 call.2).2.1]
      rfl

theorem numMinimalConflicts_extract (oracle : Oracle σ) (extractor : Extractor σ)
    (circuit : Circuit) (observations : List Observation) :
    let call := extractor.extract oracle circuit observations
    call.extractor.statistics.numMinimalConflicts =
      extractor.statistics.numMinimalConflicts + call.conflicts.length := by
  intro call
  have hstatistics : call.extractor.statistics =
      extractor.statistics.add call.answers call.outcome := rfl
  rw [hstatistics]
  unfold ExtractionStatistics.add Extraction.conflicts
  cases call.outcome <;> rfl

/-- The counters are those of what the oracle was asked so far and of the number of conflict sets
returned so far. -/
structure Accounts (extractor : Extractor (σ × List Exchange)) (returned : ℕ) : Prop where
  queries : extractor.statistics.numQueries = extractor.state.2.length
  conflicting : extractor.statistics.numConflictingCandidates =
    extractor.state.2.countP fun x => rejects x.verdict
  minimal : extractor.statistics.numMinimalConflicts = returned

/-- A call keeps the account, whether it fails or not. -/
theorem Accounts.extract {extractor : Extractor (σ × List Exchange)} {returned : ℕ}
    (h : extractor.Accounts returned) (oracle : Oracle σ) (circuit : Circuit)
    (observations : List Observation) :
    (extractor.extract oracle.recorded circuit observations).extractor.Accounts
      (returned + (extractor.erase.extract oracle circuit observations).conflicts.length) := by
  obtain ⟨_, herase, hrecord⟩ := extractor.extract_recorded oracle circuit observations
  have hstatistics := congrArg Extractor.statistics herase
  refine ⟨?_, ?_, ?_⟩
  · rw [hrecord, List.length_append, List.length_map, ← h.queries]
    exact congrArg ExtractionStatistics.numQueries hstatistics
  · rw [hrecord, List.countP_append, List.countP_map, ← h.conflicting]
    exact congrArg ExtractionStatistics.numConflictingCandidates hstatistics
  · refine (congrArg ExtractionStatistics.numMinimalConflicts hstatistics).trans ?_
    rw [numMinimalConflicts_extract, ← h.minimal]
    rfl

theorem Accounts.after {extractor : Extractor (σ × List Exchange)} {returned : ℕ}
    (h : extractor.Accounts returned) (oracle : Oracle σ)
    (calls : List (Circuit × List Observation)) :
    (extractor.after oracle.recorded calls).Accounts
      (returned + ((extractAll oracle calls extractor.erase).flatMap
        Extraction.conflicts).length) := by
  induction calls generalizing extractor returned with
  | nil => exact h
  | cons call rest ih =>
      obtain ⟨_, herase, _⟩ := extractor.extract_recorded oracle call.1 call.2
      have hrest := ih (h.extract oracle call.1 call.2)
      rw [herase] at hrest
      rw [extractAll, List.flatMap_cons, List.length_append, ← Nat.add_assoc]
      exact hrest

end Extractor

/-- **An extractor accounts for all its calls**, failed or not. After any calls of a new extractor
its counters are the number of queries asked so far, with those that failed, the number of those
that were rejected, and the number of conflict sets returned. The last call, like each one before
it, has asked about the first ones of its candidates up to a query that failed, and its outcome is
determined by its circuit and by the verdicts on its own queries. -/
theorem extract_accounts_for_queries (oracle : Oracle σ) (state : σ)
    (earlier : List (Circuit × List Observation)) (circuit : Circuit)
    (observations : List Observation) :
    let calls := earlier ++ [(circuit, observations)]
    let run := Extractor.extractAll oracle calls ⟨state, {}⟩
    let transcript := oracle.transcript state calls
    ∃ (call : Extraction σ) (asked : List Exchange),
      run = Extractor.extractAll oracle earlier ⟨state, {}⟩ ++ [call] ∧
      transcript = oracle.transcript state earlier ++ asked ∧
      call.Asks circuit observations asked ∧
      call.extractor.statistics.numQueries = transcript.length ∧
      call.extractor.statistics.numConflictingCandidates =
        transcript.countP (fun x => rejects x.verdict) ∧
      call.extractor.statistics.numMinimalConflicts =
        (run.flatMap Extraction.conflicts).length := by
  intro calls run transcript
  let start : Extractor (σ × List Exchange) := ⟨(state, []), {}⟩
  let met := start.after oracle.recorded earlier
  have hmet : met.erase = Extractor.after oracle ⟨state, {}⟩ earlier :=
    start.erase_after oracle earlier
  have hafter : start.after oracle.recorded calls =
      (met.extract oracle.recorded circuit observations).extractor :=
    start.after_append_singleton oracle.recorded earlier circuit observations
  obtain ⟨_, herase, hrecord⟩ := met.extract_recorded oracle circuit observations
  have hstart : start.Accounts 0 := ⟨rfl, rfl, rfl⟩
  have haccounts := hstart.after oracle calls
  rw [hafter, Nat.zero_add] at haccounts
  have htranscript : transcript =
      (met.extract oracle.recorded circuit observations).extractor.state.2 :=
    congrArg (fun e => e.state.2) hafter
  refine ⟨met.erase.extract oracle circuit observations, _, ?_, htranscript.trans hrecord,
    Extractor.asks_extract oracle circuit observations met.erase, ?_⟩
  · rw [hmet]
    exact Extractor.extractAll_append_singleton oracle ⟨state, {}⟩ earlier circuit observations
  · rw [← herase, htranscript]
    exact ⟨haccounts.queries, haccounts.conflicting, haccounts.minimal⟩

/-- An oracle that rejects every pair and fails on its fifth query, which is the second one of the
second call. That call ends there, and what the first one counted stays. -/
theorem extract_accounts_for_queries_interrupted :
    let oracle : Oracle ℕ := ⟨fun q n =>
      ⟨if n = 4 then .error (.solver "interrupted")
        else .ok (.ofSatisfiable (q.healthy.size != 2)), n + 1, []⟩⟩
    let pair := Circuit.ofComponents [⟨"A", .and, .input "x", .input "y"⟩,
      ⟨"B", .or, .output "A", .input "y"⟩]
    let triple := Circuit.ofComponents [⟨"C", .and, .input "x", .output "A"⟩,
      ⟨"A", .or, .input "x", .input "y"⟩, ⟨"B", .xor, .output "Z", .output "B"⟩]
    ∃ (call : Extraction ℕ) (asked : List Exchange),
      (Extractor.extractAll oracle [(pair, []), (triple, [])] ⟨0, {}⟩).getLast? = some call ∧
      oracle.transcript 0 [(pair, []), (triple, [])] = oracle.transcript 0 [(pair, [])] ++ asked ∧
      asked.map Exchange.query =
        [.assuming triple [] (ofList ["C"]), .assuming triple [] (ofList ["A"])] ∧
      (∃ x ∈ asked, ∃ cause, x.verdict = .error cause) ∧
      call.outcome = .error ⟨ofList ["A"], .solver "interrupted"⟩ ∧
      call.extractor.statistics = ⟨5, 1, 1⟩ := by
  intro oracle pair triple
  obtain ⟨call, asked, hrun, htranscript, hasks, hqueries, _, _⟩ :=
    extract_accounts_for_queries oracle 0 [(pair, [])] triple []
  have hlast : (Extractor.extractAll oracle [(pair, []), (triple, [])] ⟨0, {}⟩).getLast? =
      some call := (congrArg List.getLast? hrun).trans List.getLast?_concat
  have hstatistics : call.extractor.statistics = ⟨5, 1, 1⟩ := by
    have hvalue : (Extractor.extractAll oracle [(pair, []), (triple, [])] ⟨0, {}⟩).getLast?.map
        (fun c => c.extractor.statistics) = some ⟨5, 1, 1⟩ := by decide +kernel
    rw [hlast] at hvalue
    exact Option.some.inj hvalue
  have hasked : asked.map Exchange.query =
      [.assuming triple [] (ofList ["C"]), .assuming triple [] (ofList ["A"])] := by
    have hlength : asked.length = 2 := by
      have hbefore : (oracle.transcript 0 [(pair, [])]).length = 3 := by decide +kernel
      rw [hstatistics, htranscript, List.length_append, hbefore] at hqueries
      change 5 = 3 + asked.length at hqueries
      omega
    have hfirst : triple.candidates.take 2 = [ofList ["C"], ofList ["A"]] := by decide +kernel
    rw [List.prefix_iff_eq_take.mp hasks.enumerated, List.length_map, hlength, ← List.map_take,
      hfirst]
    rfl
  have houtcome : call.outcome = .error ⟨ofList ["A"], .solver "interrupted"⟩ := by
    have hvalue : (Extractor.extractAll oracle [(pair, []), (triple, [])] ⟨0, {}⟩).getLast?.map
        (fun c => match c.outcome with
          | .error e => some (e.candidate, e.cause)
          | .ok _ => none) = some (some (ofList ["A"], .solver "interrupted")) := by
      decide +kernel
    rw [hlast, Option.map_some, Option.some.injEq] at hvalue
    split at hvalue
    · next e he =>
      cases e
      cases hvalue
      exact he
    · cases hvalue
  exact ⟨call, asked, hlast, htranscript, hasked, hasks.fails_iff.mp ⟨_, houtcome⟩, houtcome,
    hstatistics⟩

end CircuitDiagnosis
