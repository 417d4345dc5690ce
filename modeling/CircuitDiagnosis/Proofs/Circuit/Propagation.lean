import CircuitDiagnosis.Circuit.Wiring
import CircuitDiagnosis.Proofs.Circuit.Components
import CircuitDiagnosis.Proofs.Conflict.Extraction

/-!
# Values along the wiring

Let some components be driven: their outputs are computed from their inputs, while all other signals
keep given values. `Circuit.propagate` follows the computation through a bounded number of
components. In a circuit without cycles the ranks of the components can be taken below their number
(`Circuit.Acyclic.exists_rank_lt_size`), and the value of a signal does not change any more once the
bound exceeds its rank (`Circuit.propagate_succ_eq`). So with the number of components for a bound
every driven component computes its gate function (`Circuit.Acyclic.computes_settle`).

Simulation drives all components (`Circuit.simulate_eq_settle`). Hence its values are computed by
the gates (`Circuit.Acyclic.computes_simulate`), and no others with the same inputs are
(`Circuit.Acyclic.output_eq_of_computes`).
-/

namespace CircuitDiagnosis

/-- What a gate computes depends on the signals that it reads. -/
theorem Component.evaluate_congr {c : Component} {v w : Signal → Bool}
    (h : ∀ s ∈ c.inputs, v s = w s) :
    c.kind.evaluate (v c.first) (v c.second) = c.kind.evaluate (w c.first) (w c.second) := by
  rw [h c.first List.mem_cons_self, h c.second (List.mem_cons_of_mem _ List.mem_cons_self)]

namespace Circuit

open OrdSet

/-! ### Ranks -/

/-- The components of lower rank than a given one. -/
def below (circuit : Circuit) (rank : ComponentId → Nat) (i : ComponentId) : ComponentSet :=
  circuit.all.filter fun j => rank j < rank i

variable {circuit : Circuit} {rank : ComponentId → Nat}

theorem mem_below {i j : ComponentId} :
    j ∈ circuit.below rank i ↔ j ∈ circuit.ids ∧ rank j < rank i := by
  unfold below
  rw [mem_filter, mem_all, decide_eq_true_eq]

theorem size_all (circuit : Circuit) : circuit.all.size = circuit.size :=
  (size_ofList circuit.nodup_ids).trans (List.length_map Component.id)

theorem size_below_lt {i : ComponentId} (hi : i ∈ circuit.ids) :
    (circuit.below rank i).size < circuit.size := by
  rw [← size_all]
  refine size_lt_of_subset (filter_subset _ _) (mem_all.mpr hi) fun hmem => ?_
  exact Nat.lt_irrefl _ (mem_below.mp hmem).2

theorem size_below_lt_size_below {i j : ComponentId} (hj : j ∈ circuit.ids)
    (h : rank j < rank i) : (circuit.below rank j).size < (circuit.below rank i).size := by
  refine size_lt_of_subset (fun k hk => ?_) (mem_below.mpr ⟨hj, h⟩) fun hmem => ?_
  · obtain ⟨hk, hkj⟩ := mem_below.mp hk
    exact mem_below.mpr ⟨hk, Nat.lt_trans hkj h⟩
  · exact Nat.lt_irrefl _ (mem_below.mp hmem).2

/-- The ranking puts each component above those that it reads. -/
def Ranks (circuit : Circuit) (rank : ComponentId → Nat) : Prop :=
  ∀ reader source, circuit.Reads reader source → source ∈ circuit.ids →
    rank source < rank reader

/-- A circuit without cycles can be ranked by numbers below that of its components. -/
theorem Acyclic.exists_rank_lt_size (h : circuit.Acyclic) :
    ∃ rank, circuit.Ranks rank ∧ ∀ i ∈ circuit.ids, rank i < circuit.size := by
  obtain ⟨rank, hrank⟩ := h
  refine ⟨fun i => (circuit.below rank i).size, ?_, fun i hi => size_below_lt hi⟩
  intro reader source hreads hsource
  exact size_below_lt_size_below hsource (hrank reader source hreads)

theorem acyclic_of_rank (rank : ComponentId → Nat)
    (h : ∀ c ∈ circuit.components, ∀ s ∈ c.inputs, s = .output s.name → rank s.name < rank c.id) :
    circuit.Acyclic := by
  refine ⟨rank, ?_⟩
  rintro _ source ⟨c, hc, rfl, hs⟩
  exact h c hc (.output source) hs rfl

/-! ### Propagation -/

/-- The value of a signal when the driven components compute their outputs and all other signals
are as given, followed through at most `depth` components; beyond it the values are as given. -/
def propagate (circuit : Circuit) (driven : ComponentSet) (given : Signal → Bool) :
    Nat → Signal → Bool
  | 0, s => given s
  | _ + 1, .input name => given (.input name)
  | depth + 1, .output i =>
    match (circuit.component? i).filter fun c => driven.contains c.id with
    | some c =>
      c.kind.evaluate (propagate circuit driven given depth c.first)
        (propagate circuit driven given depth c.second)
    | none => given (.output i)

/-- The values that signals come to when the driven components compute their outputs. -/
def settle (circuit : Circuit) (driven : ComponentSet) (given : Signal → Bool) : Signal → Bool :=
  circuit.propagate driven given circuit.size

theorem component?_eq_some_iff {i : ComponentId} {c : Component} :
    circuit.component? i = some c ↔ c ∈ circuit.components ∧ c.id = i := by
  unfold component?
  constructor
  · intro h
    have hid := List.find?_some h
    exact ⟨List.mem_of_find?_eq_some h, beq_iff_eq.mp hid⟩
  · rintro ⟨hc, rfl⟩
    have hsome : (circuit.components.find? fun d => d.id == c.id).isSome = true :=
      List.find?_isSome.mpr ⟨c, hc, beq_self_eq_true c.id⟩
    obtain ⟨d, hd⟩ := Option.isSome_iff_exists.mp hsome
    have hid := List.find?_some hd
    rw [hd, eq_of_id_eq (List.mem_of_find?_eq_some hd) hc (beq_iff_eq.mp hid)]

section Propagation

variable {driven : ComponentSet} {given : Signal → Bool}

theorem propagate_input (depth : Nat) (name : String) :
    circuit.propagate driven given depth (.input name) = given (.input name) := by
  cases depth <;> rfl

theorem propagate_of_not_driven {i : ComponentId} (h : i ∈ circuit.ids → i ∉ driven)
    (depth : Nat) : circuit.propagate driven given depth (.output i) = given (.output i) := by
  cases depth with
  | zero => rfl
  | succ depth =>
      unfold propagate
      split
      · next c hc =>
        obtain ⟨hfound, hdriven⟩ := Option.filter_eq_some_iff.mp hc
        obtain ⟨hmem, rfl⟩ := component?_eq_some_iff.mp hfound
        exact absurd (OrdSet.contains_iff.mp hdriven) (h (List.mem_map_of_mem hmem))
      · rfl

theorem propagate_output {c : Component} (hc : c ∈ circuit.components) (hdriven : c.id ∈ driven)
    (depth : Nat) :
    circuit.propagate driven given (depth + 1) c.output =
      c.kind.evaluate (circuit.propagate driven given depth c.first)
        (circuit.propagate driven given depth c.second) := by
  have hfound : (circuit.component? c.id).filter (fun c => driven.contains c.id) = some c := by
    rw [component?_eq_some_iff.mpr ⟨hc, rfl⟩, Option.filter_some, OrdSet.contains_iff.mpr hdriven]
    rfl
  unfold Component.output
  rw [propagate, hfound]

/-- Above the rank of a signal its value does not depend on the bound. -/
theorem propagate_succ_eq (hrank : circuit.Ranks rank) {depth : Nat} {s : Signal}
    (hs : ∀ i, s = .output i → i ∈ circuit.ids → rank i < depth) :
    circuit.propagate driven given (depth + 1) s = circuit.propagate driven given depth s := by
  induction depth generalizing s with
  | zero =>
      cases s with
      | input name => rfl
      | output i => exact propagate_of_not_driven (fun hi => absurd (hs i rfl hi) (by omega)) 1
  | succ depth ih =>
      cases s with
      | input name => rfl
      | output i =>
          by_cases hi : i ∈ circuit.ids ∧ i ∈ driven
          · obtain ⟨hi, hdriven⟩ := hi
            obtain ⟨c, hc, rfl⟩ := List.mem_map.mp hi
            -- What the component reads is of lower rank, so it has its value already.
            have hinput : ∀ t ∈ c.inputs, circuit.propagate driven given (depth + 1) t =
                circuit.propagate driven given depth t := by
              intro t ht
              refine ih fun j hj hjids => ?_
              have hlt := hrank c.id j ⟨c, hc, rfl, hj ▸ ht⟩ hjids
              have hle := hs c.id rfl hi
              omega
            have hstep : ∀ n, circuit.propagate driven given (n + 1) c.output =
                c.kind.evaluate (circuit.propagate driven given n c.first)
                  (circuit.propagate driven given n c.second) :=
              propagate_output hc hdriven
            change circuit.propagate driven given (depth + 1 + 1) c.output =
              circuit.propagate driven given (depth + 1) c.output
            rw [hstep, hstep, Component.evaluate_congr hinput]
          · have hnot : i ∈ circuit.ids → i ∉ driven := fun hids hdriven => hi ⟨hids, hdriven⟩
            rw [propagate_of_not_driven hnot, propagate_of_not_driven hnot]

/-- In a circuit without cycles the driven components compute the values that signals come to. -/
theorem Acyclic.computes_settle (h : circuit.Acyclic) {c : Component}
    (hc : c ∈ circuit.components) (hdriven : c.id ∈ driven) :
    c.Computes (circuit.settle driven given) := by
  obtain ⟨rank, hrank, hlt⟩ := h.exists_rank_lt_size
  have hsize := hlt c.id (List.mem_map_of_mem hc)
  obtain ⟨depth, hdepth⟩ := Nat.exists_eq_add_one_of_ne_zero (Nat.ne_zero_of_lt hsize)
  have hinput : ∀ t ∈ c.inputs, circuit.propagate driven given (depth + 1) t =
      circuit.propagate driven given depth t := by
    intro t ht
    refine propagate_succ_eq hrank fun j hj hjids => ?_
    have hlower := hrank c.id j ⟨c, hc, rfl, hj ▸ ht⟩ hjids
    omega
  unfold Component.Computes settle
  rw [hdepth, Component.evaluate_congr hinput]
  exact propagate_output hc hdriven depth

theorem settle_input (name : String) :
    circuit.settle driven given (.input name) = given (.input name) :=
  propagate_input circuit.size name

theorem settle_of_not_driven {i : ComponentId} (h : i ∈ circuit.ids → i ∉ driven) :
    circuit.settle driven given (.output i) = given (.output i) :=
  propagate_of_not_driven h circuit.size

end Propagation

/-! ### Simulation -/

/-- The given values of a simulation: those of the inputs, while outputs are false. -/
def inputSignals (inputs : String → Bool) : Signal → Bool
  | .input name => inputs name
  | .output _ => false

theorem valueWithin_eq_propagate (inputs : String → Bool) (depth : Nat) (s : Signal) :
    circuit.valueWithin inputs depth s =
      circuit.propagate circuit.all (inputSignals inputs) depth s := by
  induction depth generalizing s with
  | zero => cases s <;> rfl
  | succ depth ih =>
      cases s with
      | input name => rfl
      | output i =>
          cases hfound : circuit.component? i with
          | none =>
              rw [valueWithin, propagate, hfound]
              rfl
          | some c =>
              obtain ⟨hc, rfl⟩ := component?_eq_some_iff.mp hfound
              have hall : c.id ∈ circuit.all := mem_all.mpr (List.mem_map_of_mem hc)
              rw [valueWithin, hfound]
              change _ = circuit.propagate circuit.all _ (depth + 1) c.output
              rw [propagate_output hc hall, ← ih, ← ih]

/-- Simulating a circuit is letting all components compute their outputs. -/
theorem simulate_eq_settle (inputs : String → Bool) :
    circuit.simulate inputs = circuit.settle circuit.all (inputSignals inputs) :=
  funext fun s => valueWithin_eq_propagate inputs circuit.size s

theorem simulate_input (inputs : String → Bool) (name : String) :
    circuit.simulate inputs (.input name) = inputs name := by
  rw [simulate_eq_settle]
  exact settle_input name

/-- In a circuit without cycles the simulated values are computed by the gates. -/
theorem Acyclic.computes_simulate (h : circuit.Acyclic) (inputs : String → Bool) {c : Component}
    (hc : c ∈ circuit.components) : c.Computes (circuit.simulate inputs) := by
  rw [simulate_eq_settle]
  exact h.computes_settle hc (mem_all.mpr (List.mem_map_of_mem hc))

/-- In a circuit without cycles the gates determine the outputs from the inputs that they read. -/
theorem Acyclic.output_eq_of_computes (h : circuit.Acyclic) (hwiring : circuit.Closed)
    {v w : Signal → Bool} (hv : ∀ c ∈ circuit.components, c.Computes v)
    (hw : ∀ c ∈ circuit.components, c.Computes w)
    (hinputs : ∀ c ∈ circuit.components, ∀ name, .input name ∈ c.inputs →
      v (.input name) = w (.input name)) :
    ∀ i ∈ circuit.ids, v (.output i) = w (.output i) := by
  obtain ⟨rank, hrank⟩ := h
  intro i
  induction hn : rank i using Nat.strong_induction_on generalizing i with
  | _ n ih =>
      intro hi
      obtain ⟨c, hc, rfl⟩ := List.mem_map.mp hi
      have hread : ∀ s ∈ c.inputs, v s = w s := by
        intro s hs
        cases s with
        | input name => exact hinputs c hc name hs
        | output j =>
            have hreads : circuit.Reads c.id j := ⟨c, hc, rfl, hs⟩
            exact ih (rank j) (hn ▸ hrank c.id j hreads) j rfl (hwiring c.id j hreads)
      calc v c.output = c.kind.evaluate (v c.first) (v c.second) := hv c hc
        _ = c.kind.evaluate (w c.first) (w c.second) := Component.evaluate_congr hread
        _ = w c.output := (hw c hc).symm

end Circuit

end CircuitDiagnosis
