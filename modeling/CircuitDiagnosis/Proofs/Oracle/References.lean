import CircuitDiagnosis.Proofs.Circuit.FaultAssignment
import CircuitDiagnosis.Proofs.Oracle.Encoding
import Mathlib.Tactic.ByContra

/-!
# References of a query

A query names components in three kinds of places: where a component reads an output, where an
output was observed, and where a flag is fixed. `Query.references` lists these places in the order
in which the oracle looks at them. The oracle fails exactly if one of them names a component that
the circuit does not have, and it reports the first such place (`Query.dangling?_eq_some_iff`),
whatever the other places are.

The flags of a healthy subset are those of the components of the circuit, so a query that assumes a
set to be healthy dangles only by its signals (`Query.exists_dangling?_assuming_iff`).
-/

namespace CircuitDiagnosis

/-- A place of a query that names a component. -/
inductive Reference where
  /-- A component reads the output of another one. -/
  | input (reader source : ComponentId)
  /-- An output was observed. -/
  | observed (component : ComponentId)
  /-- A flag is fixed. -/
  | flag (component : ComponentId)

namespace Reference

/-- The component that is named. -/
def target : Reference → ComponentId
  | .input _ source => source
  | .observed component => component
  | .flag component => component

/-- The error that reports a place. -/
def error : Reference → OracleError
  | .input reader source => .unknownInput reader source
  | .observed component => .unknownObserved component
  | .flag component => .unknownFaultFlag component

end Reference

/-- The component whose output a signal is; an input of the circuit has none. -/
def Signal.drivers : Signal → List ComponentId
  | .input _ => []
  | .output id => [id]

/-- An input of a component or an observation names the output of a component that the circuit does
not have. -/
def DanglingSignal (circuit : Circuit) (observations : List Observation) : Prop :=
  (∃ reader source, circuit.Reads reader source ∧ source ∉ circuit.ids) ∨
    ∃ o ∈ observations, ∃ i, o.signal = .output i ∧ i ∉ circuit.ids

namespace Query

variable (q : Query)

/-- All places that name a component: the inputs of the components in the order of declaration, the
first input of each before the second, then the observations in their order, then the flags in the
order of their components. -/
def references : List Reference :=
  (q.circuit.components.flatMap fun c => c.inputs.flatMap fun s => s.drivers.map (.input c.id)) ++
    ((q.observations.flatMap fun o => o.signal.drivers.map .observed) ++
      q.faults.flags.map fun f => .flag f.component)

/-- The place names a component that the circuit does not have, and no place before it does. -/
def FirstDangling (r : Reference) : Prop :=
  ∃ before after, q.references = before ++ r :: after ∧
    (∀ x ∈ before, x.target ∈ q.circuit.ids) ∧ r.target ∉ q.circuit.ids

/-- Whether a place names a component that the circuit does not have. -/
def dangles (r : Reference) : Bool := !q.circuit.contains r.target

theorem dangles_iff {r : Reference} : q.dangles r = true ↔ r.target ∉ q.circuit.ids := by
  unfold dangles
  rw [Bool.not_eq_true', ← Bool.not_eq_true, Circuit.contains_iff]

theorem not_dangles_iff {r : Reference} : (!q.dangles r) = true ↔ r.target ∈ q.circuit.ids := by
  unfold dangles
  rw [Bool.not_not, Circuit.contains_iff]

/-! ### The first dangling reference -/

/-- Among the places that a signal makes, the one that dangles is found. -/
theorem find?_drivers (place : ComponentId → Reference) (hplace : ∀ i, (place i).target = i)
    (s : Signal) :
    ((s.drivers.map place).find? q.dangles).map Reference.error =
      (unknown? q.circuit s).map fun i => (place i).error := by
  cases s with
  | input name => rfl
  | output id =>
      unfold Signal.drivers unknown? dangles
      rw [List.map_singleton, List.find?_singleton, hplace]
      simp only
      cases q.circuit.contains id <;> rfl

theorem find?_inputs (c : Component) :
    ((c.inputs.flatMap fun s => s.drivers.map (.input c.id)).find? q.dangles).map
      Reference.error = q.danglingInput? c := by
  unfold danglingInput?
  rw [List.find?_flatMap, List.map_findSome?, List.map_findSome?]
  refine congrArg (List.findSome? · c.inputs) (funext fun s => ?_)
  exact q.find?_drivers (.input c.id) (fun _ => rfl) s

/-- The check for dangling references looks at the places in their order. -/
theorem dangling?_eq : q.dangling? = (q.references.find? q.dangles).map Reference.error := by
  unfold dangling? references
  rw [List.find?_append, List.find?_append, Option.map_or, Option.map_or]
  congr 1
  · rw [List.find?_flatMap, List.map_findSome?]
    refine congrArg (List.findSome? · q.circuit.components) (funext fun c => ?_)
    exact (q.find?_inputs c).symm
  congr 1
  · rw [List.find?_flatMap, List.map_findSome?]
    refine congrArg (List.findSome? · q.observations) (funext fun o => ?_)
    exact (q.find?_drivers .observed (fun _ => rfl) o.signal).symm
  · rw [List.find?_eq_findSome?_guard, List.findSome?_map, List.map_findSome?]
    refine congrArg (List.findSome? · q.faults.flags) (funext fun f => ?_)
    have hdangles : q.dangles (.flag f.component) = !q.circuit.contains f.component := rfl
    simp only [Function.comp_apply, Option.guard, hdangles]
    cases q.circuit.contains f.component <;> rfl

/-- Exactly the first place that dangles is reported. -/
theorem dangling?_eq_some_iff {e : OracleError} :
    q.dangling? = some e ↔ ∃ r, q.FirstDangling r ∧ e = r.error := by
  rw [dangling?_eq, Option.map_eq_some_iff]
  refine exists_congr fun r => ?_
  unfold FirstDangling
  simp only [List.find?_eq_some_iff_append, dangles_iff, not_dangles_iff]
  constructor
  · rintro ⟨⟨hr, before, after, hsplit, hbefore⟩, rfl⟩
    exact ⟨⟨before, after, hsplit, hbefore, hr⟩, rfl⟩
  · rintro ⟨⟨before, after, hsplit, hbefore, hr⟩, rfl⟩
    exact ⟨⟨hr, before, after, hsplit, hbefore⟩, rfl⟩

/-- A query gets no verdict exactly if some place dangles: an input, an observation or a flag. -/
theorem exists_dangling?_iff :
    (∃ e, q.dangling? = some e) ↔
      DanglingSignal q.circuit q.observations ∨
        ∃ f ∈ q.faults.flags, f.component ∉ q.circuit.ids := by
  rw [← Option.isSome_iff_exists, ← Option.ne_none_iff_isSome, ne_eq, dangling?_eq_none_iff]
  unfold DanglingSignal
  constructor
  · intro h
    by_contra hnone
    simp only [not_or, not_exists, not_and, not_not] at hnone
    obtain ⟨⟨hwiring, hobserved⟩, hflags⟩ := hnone
    exact h ⟨hwiring, hobserved, hflags⟩
  · rintro ((⟨reader, source, hreads, hsource⟩ | ⟨o, ho, i, hi, hnot⟩) | ⟨f, hf, hnot⟩) hclosed
    · exact hsource (hclosed.wiring reader source hreads)
    · exact hnot (hclosed.observed o ho i hi)
    · exact hnot (hclosed.flags f hf)

/-- A query that assumes a set to be healthy dangles only by its signals. -/
theorem exists_dangling?_assuming_iff {circuit : Circuit} {observations : List Observation}
    {healthy : ComponentSet} :
    (∃ e, (assuming circuit observations healthy).dangling? = some e) ↔
      DanglingSignal circuit observations := by
  rw [exists_dangling?_iff]
  refine or_iff_left ?_
  rintro ⟨f, hf, hnot⟩
  exact hnot (FaultAssignment.mem_flags_healthySubset.mp hf).1

theorem flag_mem_references_iff {i : ComponentId} :
    .flag i ∈ q.references ↔ ∃ f ∈ q.faults.flags, f.component = i := by
  unfold references
  simp only [List.mem_append, List.mem_flatMap, List.mem_map, reduceCtorEq, and_false, exists_false,
    false_or, Reference.flag.injEq]

/-- A healthy subset fixes no flag of a component that the circuit does not have. -/
theorem dangling?_assuming_ne {circuit : Circuit} {observations : List Observation}
    {healthy : ComponentSet} {i : ComponentId} :
    (assuming circuit observations healthy).dangling? ≠ some (.unknownFaultFlag i) := by
  rw [ne_eq, dangling?_eq_some_iff]
  rintro ⟨r, ⟨before, after, hsplit, _, hr⟩, herror⟩
  have hmem : r ∈ (assuming circuit observations healthy).references := by
    rw [hsplit]
    exact List.mem_append_right before List.mem_cons_self
  cases r with
  | input reader source => cases herror
  | observed component => cases herror
  | flag component =>
      obtain ⟨f, hf, rfl⟩ := (flag_mem_references_iff _).mp hmem
      exact hr (FaultAssignment.mem_flags_healthySubset.mp hf).1

theorem verdict_eq_error_iff {e : OracleError} : q.verdict = .error e ↔ q.dangling? = some e := by
  unfold verdict
  cases q.dangling? <;> simp

end Query

end CircuitDiagnosis
