import CircuitDiagnosis.Proofs.CircuitFile.Rendering
import Mathlib.Data.List.Perm.Basic

/-!
# The connections of a circuit

A circuit with its observations comes from connections (`ObservedCircuit.ConnectedBy`): one for each
input that is wired, and one to a constant for each observed input. In a circuit of the shape of
circuit files an input is wired or observed once (`WellFormed.countP_observed`), so these connect
each input of a component once (`WellFormed.connectedBy`). The contents that they make are in order
and determine the circuit (`ConnectedBy.wellFormed`, `ConnectedBy.yields`).
-/

namespace CircuitDiagnosis

namespace CircuitFile

/-! ### Wirings and constants -/

/-- The connection of an input that is wired. -/
def wiring? (c : Component) (pin : Pin) : Option Connection :=
  match pin.signal c with
  | .input _ => none
  | .output i => some ⟨pin, c.id, .output i⟩

/-- The connections of the inputs of a component that are wired. -/
def wirings (c : Component) : List Connection :=
  (wiring? c .first).toList ++ (wiring? c .second).toList

theorem wiring?_eq_some_iff {c : Component} {pin : Pin} {k : Connection} :
    wiring? c pin = some k ↔ ∃ i, pin.signal c = .output i ∧ k = ⟨pin, c.id, .output i⟩ := by
  unfold wiring?
  cases pin.signal c with
  | input name => exact ⟨fun h => (by cases h), fun ⟨_, h, _⟩ => (by cases h)⟩
  | output i => simp [eq_comm]

theorem mem_wirings {c : Component} {k : Connection} :
    k ∈ wirings c ↔ wiring? c k.pin = some k := by
  unfold wirings
  rw [List.mem_append, Option.mem_toList, Option.mem_toList]
  constructor
  · rintro (h | h)
    · obtain ⟨i, _, rfl⟩ := wiring?_eq_some_iff.mp h
      exact h
    · obtain ⟨i, _, rfl⟩ := wiring?_eq_some_iff.mp h
      exact h
  · cases k.pin with
    | first => exact Or.inl
    | second => exact Or.inr

theorem wireLine?_eq (c : Component) (pin : Pin) :
    wireLine? c pin (pin.signal c) = (wiring? c pin).map Connection.line := by
  unfold wireLine? wiring?
  cases pin.signal c <;> rfl

/-- The wiring is written as the lines of its connections. -/
theorem wireLines_eq (c : Component) : wireLines c = (wirings c).map Connection.line := by
  unfold wireLines wirings
  rw [List.map_append, ← Option.toList_map, ← Option.toList_map, ← wireLine?_eq, ← wireLine?_eq]
  rfl

theorem flatMap_wireLines_eq (components : List Component) :
    components.flatMap wireLines = (components.flatMap wirings).map Connection.line := by
  rw [List.map_flatMap]
  exact List.flatMap_congr fun c _ => wireLines_eq c

/-- Images in another order are the images of members in another order. -/
theorem exists_eq_map_of_perm {α β : Type} {f : α → β} {l : List α} {m : List β}
    (h : m.Perm (l.map f)) : ∃ l' : List α, l'.Perm l ∧ m = l'.map f := by
  have himages : List.Forall₂ (fun b a => b = f a) (l.map f) l :=
    List.forall₂_map_left_iff.mpr (List.forall₂_same.mpr fun _ _ => rfl)
  obtain ⟨l', hl', hperm⟩ := List.perm_comp_forall₂ h himages
  refine ⟨l', hperm, ?_⟩
  rw [← List.forall₂_eq_eq_eq, List.forall₂_map_right_iff]
  exact hl'

theorem countP_wiring? (c : Component) (pin pin' : Pin) :
    (wiring? c pin').toList.countP (fun k => k.component == c.id && k.pin == pin) =
      if pin' = pin then (wiring? c pin).toList.length else 0 := by
  split
  · next hpin =>
    subst hpin
    refine List.countP_eq_length.mpr fun k hk => ?_
    obtain ⟨i, _, rfl⟩ := wiring?_eq_some_iff.mp (Option.mem_toList.mp hk)
    simp
  · next hpin =>
    refine List.countP_eq_zero.mpr fun k hk => ?_
    obtain ⟨i, _, rfl⟩ := wiring?_eq_some_iff.mp (Option.mem_toList.mp hk)
    simp [hpin]

/-- The wiring of distinct components connects an input once if it is wired. -/
theorem countP_wirings {components : List Component} (hnodup : (components.map Component.id).Nodup)
    {c : Component} (hc : c ∈ components) (pin : Pin) :
    (components.flatMap wirings).countP (fun k => k.component == c.id && k.pin == pin) =
      (wiring? c pin).toList.length := by
  -- The wiring of components with other identifiers has no connection of the pin.
  have hother : ∀ l : List Component, c.id ∉ l.map Component.id →
      (l.flatMap wirings).countP (fun k => k.component == c.id && k.pin == pin) = 0 := by
    intro l hl
    refine List.countP_eq_zero.mpr fun k hk hpin => ?_
    obtain ⟨d, hd, hk⟩ := List.mem_flatMap.mp hk
    obtain ⟨i, _, hk⟩ := wiring?_eq_some_iff.mp (mem_wirings.mp hk)
    rw [hk, Bool.and_eq_true, beq_iff_eq] at hpin
    exact hl (hpin.1 ▸ List.mem_map_of_mem hd)
  obtain ⟨before, behind, rfl⟩ := List.append_of_mem hc
  rw [List.map_append, List.map_cons] at hnodup
  have hbefore : c.id ∉ before.map Component.id := fun hmem =>
    List.disjoint_of_nodup_append hnodup hmem List.mem_cons_self
  have hbehind : c.id ∉ behind.map Component.id := (List.nodup_cons.mp hnodup.of_append_right).1
  rw [List.flatMap_append, List.flatMap_cons, List.countP_append, List.countP_append,
    hother before hbefore, hother behind hbehind, Nat.zero_add, Nat.add_zero]
  unfold wirings
  rw [List.countP_append, countP_wiring?, countP_wiring?]
  cases pin with
  | first => rfl
  | second => exact Nat.zero_add _

theorem exists_forall₂ {α β : Type} {R : α → β → Prop} {m : List β} (h : ∀ b ∈ m, ∃ a, R a b) :
    ∃ l, List.Forall₂ R l m := by
  induction m with
  | nil => exact ⟨[], .nil⟩
  | cons b rest ih =>
      obtain ⟨⟨a, hab⟩, hrest⟩ := List.forall_mem_cons.mp h
      obtain ⟨l, hl⟩ := ih hrest
      exact ⟨a :: l, .cons hab hl⟩

section Constants

variable {constants : List Connection} {observations : List Observation}
  (h : List.Forall₂ (fun k o => k.observation? = some o) constants observations)

include h

theorem filterMap_observation?_eq : constants.filterMap Connection.observation? = observations := by
  induction h with
  | nil => rfl
  | cons hk _ ih => rw [List.filterMap_cons_some hk, ih]

/-- Observed inputs are written as the lines of connections. -/
theorem map_line_eq : constants.map Connection.line = observations.map observationLine := by
  induction h with
  | nil => rfl
  | cons hk _ ih =>
      obtain ⟨value, hsource, rfl⟩ := observation?_eq_some_iff.mp hk
      rw [List.map_cons, List.map_cons, ih]
      unfold Connection.line observationLine
      rw [hsource]
      rfl

/-- A pin is connected as often as its input is observed. -/
theorem countP_constants (i : ComponentId) (pin : Pin) :
    constants.countP (fun k => k.component == i && k.pin == pin) =
      observations.countP fun o => o.signal == .input (pin.inputName i) := by
  induction h with
  | nil => rfl
  | @cons k o _ _ hk _ ih =>
      obtain ⟨value, _, rfl⟩ := observation?_eq_some_iff.mp hk
      have hiff : (k.component == i && k.pin == pin) =
          (Signal.input (k.pin.inputName k.component) == .input (pin.inputName i)) := by
        rw [Bool.eq_iff_iff, Bool.and_eq_true, beq_iff_eq, beq_iff_eq, beq_iff_eq]
        constructor
        · rintro ⟨rfl, rfl⟩
          rfl
        · intro hname
          exact (inputName_inj (Signal.input.inj hname)).symm
      rw [List.countP_cons, List.countP_cons, ih, hiff]

end Constants

theorem ofInput_eq_true_iff {o : Observation} :
    ofInput o = true ↔ ∃ name, o.signal = .input name := by
  unfold ofInput
  cases o.signal <;> simp

end CircuitFile

namespace ObservedCircuit

open CircuitFile

variable {r : ObservedCircuit}

/-! ### Connections and contents -/

/-- The connections are those of the inputs of the components, one for each, and their constants
make the observations of inputs. -/
structure ConnectedBy (r : ObservedCircuit) (connections : List Connection) : Prop where
  signals : ∀ k ∈ connections, ∃ c ∈ r.circuit.components,
    k.component = c.id ∧ k.signal = k.pin.signal c
  once : ∀ c ∈ r.circuit.components, ∀ pin,
    connections.countP (fun k => k.component == c.id && k.pin == pin) = 1
  observed : connections.filterMap Connection.observation? = r.observations.filter ofInput

/-- The contents that are written of a circuit with these connections. -/
def contents (r : ObservedCircuit) (connections : List Connection) : Contents where
  declared := r.circuit.components.map Declaration.ofComponent
  connections := connections
  outputs := r.observations.filter fun o => !ofInput o

theorem ids_contents (r : ObservedCircuit) (connections : List Connection) :
    (r.contents connections).ids = r.circuit.ids := by
  unfold contents Contents.ids Circuit.ids
  rw [List.map_map]
  rfl

theorem WellFormed.exists_of_not_ofInput (h : r.WellFormed) :
    ∀ o ∈ r.observations.filter fun o => !ofInput o, ∃ i ∈ r.circuit.ids, o.signal = .output i := by
  intro o ho
  obtain ⟨ho, hinput⟩ := List.mem_filter.mp ho
  obtain ⟨inputs, outputs, hobservations, hinputs, houtputs⟩ := h.observed
  rw [hobservations] at ho
  rcases List.mem_append.mp ho with ho | ho
  · rw [ofInput_eq_true_iff.mpr (hinputs o ho)] at hinput
    cases hinput
  · exact houtputs o ho

/-- The observations of inputs come first. -/
theorem WellFormed.observations_eq (h : r.WellFormed) :
    r.observations =
      r.observations.filter ofInput ++ r.observations.filter fun o => !ofInput o := by
  obtain ⟨inputs, outputs, hobservations, hinputs, houtputs⟩ := h.observed
  have hin : ∀ o ∈ inputs, ofInput o = true := fun o ho => ofInput_eq_true_iff.mpr (hinputs o ho)
  have hout : ∀ o ∈ outputs, ofInput o = false := by
    intro o ho
    obtain ⟨i, _, hsignal⟩ := houtputs o ho
    unfold ofInput
    rw [hsignal]
  rw [hobservations, List.filter_append, List.filter_append, List.filter_eq_self.mpr hin,
    List.filter_eq_nil_iff.mpr fun o ho => by simp [hout o ho],
    List.filter_eq_nil_iff.mpr fun o ho => by simp [hin o ho],
    List.filter_eq_self.mpr fun o ho => by simp [hout o ho], List.append_nil, List.nil_append]

/-- An observed input is that of a pin which is not wired. -/
theorem WellFormed.exists_pin_of_observed (h : r.WellFormed) {o : Observation}
    (ho : o ∈ r.observations) {name : String} (hname : o.signal = .input name) :
    ∃ c ∈ r.circuit.components, ∃ pin : Pin,
      name = pin.inputName c.id ∧ pin.signal c = .input (pin.inputName c.id) := by
  obtain ⟨c, hc, pin, hsignal⟩ := h.inputs_read o ho name hname
  rcases h.wired c hc pin with ⟨i, _, hwired⟩ | hwired
  · rw [hwired] at hsignal
    cases hsignal
  · rw [hwired] at hsignal
    exact ⟨c, hc, pin, (Signal.input.inj hsignal).symm, hwired⟩

/-- Each observation of an input is that of a constant. -/
theorem WellFormed.exists_constants (h : r.WellFormed) :
    ∃ constants : List Connection, List.Forall₂ (fun k o => k.observation? = some o) constants
      (r.observations.filter ofInput) := by
  refine exists_forall₂ fun o ho => ?_
  obtain ⟨ho, hinput⟩ := List.mem_filter.mp ho
  obtain ⟨name, hname⟩ := ofInput_eq_true_iff.mp hinput
  obtain ⟨c, _, pin, rfl, _⟩ := h.exists_pin_of_observed ho hname
  refine ⟨⟨pin, c.id, .constant o.value⟩, observation?_eq_some_iff.mpr ⟨o.value, rfl, ?_⟩⟩
  rw [← hname]

/-- An input is observed once if it is not wired, and else not at all. -/
theorem WellFormed.countP_observed (h : r.WellFormed) {c : Component}
    (hc : c ∈ r.circuit.components) (pin : Pin) :
    (wiring? c pin).toList.length + (r.observations.filter ofInput).countP
      (fun o => o.signal == .input (pin.inputName c.id)) = 1 := by
  have hfilter : (r.observations.filter ofInput).countP
      (fun o => o.signal == .input (pin.inputName c.id)) =
        r.observations.countP fun o => o.signal == .input (pin.inputName c.id) := by
    rw [List.countP_filter]
    refine List.countP_congr fun o _ => ?_
    rw [Bool.and_eq_true, beq_iff_eq, and_iff_left_iff_imp]
    exact fun hsignal => ofInput_eq_true_iff.mpr ⟨_, hsignal⟩
  rw [hfilter]
  rcases h.wired c hc pin with ⟨i, _, hwired⟩ | hwired
  · -- The name of an observed input tells the pin, and the pin of that name is wired.
    have hnone : r.observations.countP (fun o => o.signal == .input (pin.inputName c.id)) = 0 := by
      refine List.countP_eq_zero.mpr fun o ho hsignal => ?_
      obtain ⟨d, hd, pin', hname, hinput⟩ := h.exists_pin_of_observed ho (beq_iff_eq.mp hsignal)
      obtain ⟨rfl, hid⟩ := inputName_inj hname
      rw [← Circuit.eq_of_id_eq hc hd hid, hwired] at hinput
      cases hinput
    rw [hnone, wiring?_eq_some_iff.mpr ⟨i, hwired, rfl⟩]
    rfl
  · have hwiring : wiring? c pin = none := by
      unfold wiring?
      rw [hwired]
    rw [h.inputs_once c hc pin _ hwired, hwiring]
    rfl

/-- The wiring in any order, followed by constants for the observed inputs, connects the circuit. -/
theorem WellFormed.connectedBy (h : r.WellFormed) {wired constants : List Connection}
    (hwired : wired.Perm (r.circuit.components.flatMap wirings))
    (hconstants : List.Forall₂ (fun k o => k.observation? = some o) constants
      (r.observations.filter ofInput)) :
    r.ConnectedBy (wired ++ constants) where
  signals := by
    intro k hk
    rcases List.mem_append.mp hk with hk | hk
    · obtain ⟨c, hc, hk⟩ := List.mem_flatMap.mp (hwired.mem_iff.mp hk)
      obtain ⟨i, hsignal, hk⟩ := wiring?_eq_some_iff.mp (mem_wirings.mp hk)
      refine ⟨c, hc, congrArg Connection.component hk, ?_⟩
      rw [hsignal, hk]
      rfl
    · obtain ⟨o, ho, hobservation⟩ := exists_of_forall₂_left hconstants k hk
      obtain ⟨value, hsource, rfl⟩ := observation?_eq_some_iff.mp hobservation
      obtain ⟨c, hc, pin, hname, hsignal⟩ :=
        h.exists_pin_of_observed (List.mem_filter.mp ho).1 rfl
      obtain ⟨hpin, hid⟩ := inputName_inj hname
      refine ⟨c, hc, hid, ?_⟩
      rw [hpin, hsignal]
      exact signal_eq_input_iff.mpr ⟨⟨value, hsource⟩, hname.symm⟩
  once := by
    intro c hc pin
    rw [List.countP_append, hwired.countP_eq, countP_wirings r.circuit.nodup_ids hc,
      countP_constants hconstants]
    exact h.countP_observed hc pin
  observed := by
    have hnone : wired.filterMap Connection.observation? = [] := by
      refine List.filterMap_eq_nil_iff.mpr fun k hk => ?_
      obtain ⟨c, _, hk⟩ := List.mem_flatMap.mp (hwired.mem_iff.mp hk)
      obtain ⟨i, _, hk⟩ := wiring?_eq_some_iff.mp (mem_wirings.mp hk)
      rw [hk]
      rfl
    rw [List.filterMap_append, hnone, List.nil_append, filterMap_observation?_eq hconstants]

namespace ConnectedBy

variable {connections : List Connection}

theorem component_mem_ids (hconnected : r.ConnectedBy connections) :
    ∀ k ∈ connections, k.component ∈ r.circuit.ids := by
  intro k hk
  obtain ⟨c, hc, hid, _⟩ := hconnected.signals k hk
  rw [hid]
  exact List.mem_map_of_mem hc

theorem source_mem_ids (hconnected : r.ConnectedBy connections) (h : r.WellFormed) :
    ∀ k ∈ connections, ∀ i, k.source = .output i → i ∈ r.circuit.ids := by
  intro k hk i hsource
  obtain ⟨c, hc, _, hsignal⟩ := hconnected.signals k hk
  unfold Connection.signal at hsignal
  rw [hsource] at hsignal
  rcases h.wired c hc k.pin with ⟨j, hj, hwired⟩ | hwired
  · rw [hwired] at hsignal
    rw [Signal.output.inj hsignal]
    exact hj
  · rw [hwired] at hsignal
    cases hsignal

/-- The contents that are written are in order. -/
theorem wellFormed (hconnected : r.ConnectedBy connections) (h : r.WellFormed) :
    (r.contents connections).WellFormed where
  distinct := by
    rw [ids_contents]
    exact r.circuit.nodup_ids
  targets_declared := by
    rw [ids_contents]
    exact hconnected.component_mem_ids
  sources_declared := by
    rw [ids_contents]
    exact hconnected.source_mem_ids h
  outputs_declared := by
    rw [ids_contents]
    intro o ho i hsignal
    obtain ⟨j, hj, hoj⟩ := h.exists_of_not_ofInput o ho
    rw [hoj] at hsignal
    cases hsignal
    exact hj
  connected_once := by
    rw [ids_contents]
    intro i hi pin
    obtain ⟨c, hc, rfl⟩ := List.mem_map.mp hi
    exact hconnected.once c hc pin

/-- The contents that are written determine the circuit. -/
theorem yields (hconnected : r.ConnectedBy connections) (h : r.WellFormed) :
    (r.contents connections).Yields r where
  components := by
    refine List.forall₂_map_left_iff.mpr (List.forall₂_same.mpr fun c hc => ?_)
    refine ⟨rfl, rfl, fun pin => ?_⟩
    -- The pin has a connection, and a connection has the signal of its pin.
    have hpos : 0 < connections.countP fun k => k.component == c.id && k.pin == pin := by
      rw [hconnected.once c hc pin]
      exact Nat.one_pos
    obtain ⟨k, hk, hpin⟩ := List.countP_pos_iff.mp hpos
    rw [Bool.and_eq_true, beq_iff_eq, beq_iff_eq] at hpin
    obtain ⟨hid, rfl⟩ := hpin
    obtain ⟨d, hd, hkd, hsignal⟩ := hconnected.signals k hk
    rw [Circuit.eq_of_id_eq hc hd (hid.symm.trans hkd)]
    exact ⟨k, hk, hkd, rfl, hsignal⟩
  observations := by
    unfold contents
    rw [hconnected.observed]
    exact h.observations_eq

end ConnectedBy

end ObservedCircuit

end CircuitDiagnosis
