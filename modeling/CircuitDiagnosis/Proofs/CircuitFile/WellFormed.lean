import CircuitDiagnosis.Proofs.CircuitFile.Language
import CircuitDiagnosis.Proofs.Conflict.Extraction

/-!
# The circuits of circuit files

What every circuit that is read from a file looks like (`ObservedCircuit.WellFormed`): identifiers
are single words, an input of a component is the output of a component or an input of the circuit
that is named after its pin, each input of the circuit was observed once, and no output of a missing
component was observed. So nothing refers to anything outside the circuit, and an extraction by the
solver succeeds (`wellFormed_of_parse`).
-/

namespace CircuitDiagnosis

open CircuitFile Text

/-- The circuit and its observations can be written as a circuit file. -/
structure ObservedCircuit.WellFormed (r : ObservedCircuit) : Prop where
  /-- An identifier is not empty and has no blanks and no parentheses. -/
  identifiers : ∀ i ∈ r.circuit.ids, IsIdentifier i.toList
  wired : ∀ c ∈ r.circuit.components, ∀ pin : Pin,
    (∃ i ∈ r.circuit.ids, pin.signal c = .output i) ∨ pin.signal c = .input (pin.inputName c.id)
  /-- Inputs of the circuit come before outputs of components. -/
  observed : ∃ inputs outputs, r.observations = inputs ++ outputs ∧
    (∀ o ∈ inputs, ∃ name, o.signal = .input name) ∧
      ∀ o ∈ outputs, ∃ i ∈ r.circuit.ids, o.signal = .output i
  inputs_once : ∀ c ∈ r.circuit.components, ∀ (pin : Pin) (name : String),
    pin.signal c = .input name → r.observations.countP (fun o => o.signal == .input name) = 1
  inputs_read : ∀ o ∈ r.observations, ∀ name, o.signal = .input name →
    ∃ c ∈ r.circuit.components, ∃ pin : Pin, pin.signal c = .input name

namespace CircuitFile

/-! ### Names of inputs -/

theorem toList_inputName (pin : Pin) (i : ComponentId) :
    (pin.inputName i).toList = 'I' :: 'N' :: pin.digit :: '(' :: (i.toList ++ [')']) := by
  unfold Pin.inputName
  simp [String.toList_append]

/-- The name of an input tells the pin and the component. -/
theorem inputName_inj {pin pin' : Pin} {i i' : ComponentId}
    (h : pin.inputName i = pin'.inputName i') : pin = pin' ∧ i = i' := by
  have hlist := congrArg String.toList h
  rw [toList_inputName, toList_inputName] at hlist
  simp only [List.cons.injEq, true_and] at hlist
  obtain ⟨hdigit, hid⟩ := hlist
  refine ⟨?_, String.toList_inj.mp (List.append_cancel_right hid)⟩
  cases pin <;> cases pin' <;> first | rfl | exact absurd hdigit (by decide)

/-! ### The circuit of some contents -/

theorem exists_of_forall₂_left {α β : Type} {R : α → β → Prop} {l : List α} {m : List β}
    (h : List.Forall₂ R l m) : ∀ a ∈ l, ∃ b ∈ m, R a b := by
  induction h with
  | nil => exact fun a ha => (by cases ha)
  | cons hab _ ih =>
      refine List.forall_mem_cons.mpr ⟨⟨_, List.mem_cons_self, hab⟩, fun a ha => ?_⟩
      obtain ⟨b, hb, hR⟩ := ih a ha
      exact ⟨b, List.mem_cons_of_mem _ hb, hR⟩

theorem exists_of_forall₂_right {α β : Type} {R : α → β → Prop} {l : List α} {m : List β}
    (h : List.Forall₂ R l m) : ∀ b ∈ m, ∃ a ∈ l, R a b :=
  exists_of_forall₂_left (h.flip (R := fun b a => R a b))

theorem Declaration.Spells.isIdentifier {d : Declaration} {line : List Char}
    (h : d.Spells line) : IsIdentifier d.id.toList := by
  obtain ⟨_, _, ⟨hid, _⟩, _⟩ := h
  exact hid

/-- A connection makes an observation if it is to a constant, and then one of its own input. -/
theorem observation?_eq_some_iff {k : Connection} {o : Observation} :
    k.observation? = some o ↔ ∃ value, k.source = .constant value ∧
      o = ⟨.input (k.pin.inputName k.component), value⟩ := by
  unfold Connection.observation? Connection.signal
  cases k.source with
  | output i => exact ⟨fun h => (by cases h), fun ⟨_, h, _⟩ => (by cases h)⟩
  | constant value => simp [eq_comm]

theorem signal_eq_input_iff {k : Connection} {name : String} :
    k.signal = .input name ↔
      (∃ value, k.source = .constant value) ∧ name = k.pin.inputName k.component := by
  unfold Connection.signal
  cases k.source with
  | output i => exact ⟨fun h => (by cases h), fun ⟨⟨_, h⟩, _⟩ => (by cases h)⟩
  | constant value => simp [eq_comm]

namespace Contents

variable {c : Contents} {r : ObservedCircuit}

theorem Yields.ids_eq (h : c.Yields r) : r.circuit.ids = c.ids := map_id_of_describes h.components

/-- The declarations are those of the components. -/
theorem Yields.declared_eq (h : c.Yields r) :
    c.declared = r.circuit.components.map Declaration.ofComponent := by
  have hdeclared : List.Forall₂ (fun d component => d = Declaration.ofComponent component)
      c.declared r.circuit.components := by
    refine h.components.imp fun d component hdescribes => ?_
    unfold Declaration.ofComponent
    rw [hdescribes.id_eq, hdescribes.kind_eq]
  rw [← List.forall₂_map_right_iff, List.forall₂_eq_eq_eq] at hdeclared
  exact hdeclared

theorem SpelledBy.outputs_signal {source : List Char} (h : c.SpelledBy source) :
    ∀ o ∈ c.outputs, ∃ i, o.signal = .output i := by
  obtain ⟨_, _, houtputs⟩ := h.outputs
  intro o ho
  obtain ⟨_, _, i, hsignal, _⟩ := exists_of_forall₂_left houtputs o ho
  exact ⟨i, hsignal⟩

/-- The connection that the input of a component comes from. -/
theorem Yields.exists_connection (h : c.Yields r) {component : Component}
    (hcomponent : component ∈ r.circuit.components) (pin : Pin) :
    ∃ k ∈ c.connections, k.component = component.id ∧ k.pin = pin ∧
      k.signal = pin.signal component := by
  obtain ⟨d, _, hdescribes⟩ := exists_of_forall₂_right h.components component hcomponent
  rw [hdescribes.id_eq]
  exact hdescribes.wired pin

/-- The input of a component that a connection is made to. -/
theorem Yields.exists_component (h : c.Yields r) (hformed : c.WellFormed) {k : Connection}
    (hk : k ∈ c.connections) :
    ∃ component ∈ r.circuit.components, k.pin.signal component = k.signal := by
  obtain ⟨d, hd, hid⟩ := List.mem_map.mp (hformed.targets_declared k hk)
  obtain ⟨component, hcomponent, hdescribes⟩ := exists_of_forall₂_left h.components d hd
  refine ⟨component, hcomponent, ?_⟩
  -- The signal of the pin is that of a connection of the pin, and there is only one of these.
  obtain ⟨s, hs⟩ := List.length_eq_one_iff.mp (hformed.length_signalsAt_eq_one d hd k.pin)
  have hwired := mem_signalsAt.mpr (hdescribes.wired k.pin)
  have hsignal := mem_signalsAt.mpr ⟨k, hk, hid.symm, rfl, rfl⟩
  rw [hs, List.mem_singleton] at hwired hsignal
  rw [hwired, hsignal]

/-- The input of a connection to a constant is observed once. -/
theorem WellFormed.countP_observation?_eq_one (h : c.WellFormed) {k : Connection}
    (hk : k ∈ c.connections) {name : String} (hname : k.signal = .input name) :
    (c.connections.filterMap Connection.observation?).countP (fun o => o.signal == .input name) =
      1 := by
  obtain ⟨⟨value, hvalue⟩, rfl⟩ := signal_eq_input_iff.mp hname
  refine Nat.le_antisymm ?_ (?_)
  · -- Other observations of the input would be made by other connections of the pin.
    rw [List.countP_filterMap, ← h.connected_once k.component (h.targets_declared k hk) k.pin]
    refine List.countP_mono_left fun l _ hl => ?_
    cases hobservation : l.observation? with
    | none => simp [hobservation] at hl
    | some o =>
        obtain ⟨_, _, rfl⟩ := observation?_eq_some_iff.mp hobservation
        rw [hobservation, Option.map_some, Option.getD_some, beq_iff_eq] at hl
        obtain ⟨hpin, hcomponent⟩ := inputName_inj (Signal.input.inj hl)
        simp [hpin, hcomponent]
  · have hobserved : ⟨.input (k.pin.inputName k.component), value⟩ ∈
        c.connections.filterMap Connection.observation? :=
      List.mem_filterMap.mpr ⟨k, hk, observation?_eq_some_iff.mpr ⟨value, hvalue, rfl⟩⟩
    exact List.countP_pos_iff.mpr ⟨_, hobserved, beq_self_eq_true _⟩

/-- Contents of a text that are in order determine a circuit of the shape of circuit files. -/
theorem Yields.wellFormed {source : List Char} (h : c.Yields r) (hspelled : c.SpelledBy source)
    (hformed : c.WellFormed) : r.WellFormed where
  identifiers := by
    obtain ⟨_, _, hdeclared⟩ := hspelled.declared
    intro i hi
    rw [h.ids_eq] at hi
    obtain ⟨d, hd, rfl⟩ := List.mem_map.mp hi
    obtain ⟨_, _, hspells⟩ := exists_of_forall₂_left hdeclared d hd
    exact hspells.isIdentifier
  wired := by
    intro component hcomponent pin
    obtain ⟨k, hk, hid, hpin, hsignal⟩ := h.exists_connection hcomponent pin
    rw [← hsignal, ← hpin, ← hid, h.ids_eq]
    cases hsource : k.source with
    | output i =>
        refine Or.inl ⟨i, hformed.sources_declared k hk i hsource, ?_⟩
        unfold Connection.signal
        rw [hsource]
    | constant value => exact Or.inr (signal_eq_input_iff.mpr ⟨⟨value, hsource⟩, rfl⟩)
  observed := by
    refine ⟨_, _, h.observations, fun o ho => ?_, fun o ho => ?_⟩
    · obtain ⟨k, _, hk⟩ := List.mem_filterMap.mp ho
      obtain ⟨value, _, rfl⟩ := observation?_eq_some_iff.mp hk
      exact ⟨_, rfl⟩
    · obtain ⟨i, hi⟩ := hspelled.outputs_signal o ho
      rw [h.ids_eq]
      exact ⟨i, hformed.outputs_declared o ho i hi, hi⟩
  inputs_once := by
    intro component hcomponent pin name hname
    obtain ⟨k, hk, _, _, hsignal⟩ := h.exists_connection hcomponent pin
    have hnone : c.outputs.countP (fun o => o.signal == .input name) = 0 := by
      refine List.countP_eq_zero.mpr fun o ho => ?_
      obtain ⟨i, hi⟩ := hspelled.outputs_signal o ho
      simp [hi]
    rw [h.observations, List.countP_append, hnone, Nat.add_zero]
    exact hformed.countP_observation?_eq_one hk (hsignal.trans hname)
  inputs_read := by
    intro o ho name hname
    rw [h.observations] at ho
    rcases List.mem_append.mp ho with ho | ho
    · obtain ⟨k, hk, hobservation⟩ := List.mem_filterMap.mp ho
      obtain ⟨value, hvalue, rfl⟩ := observation?_eq_some_iff.mp hobservation
      obtain ⟨component, hcomponent, hsignal⟩ := h.exists_component hformed hk
      refine ⟨component, hcomponent, k.pin, hsignal.trans ?_⟩
      exact signal_eq_input_iff.mpr ⟨⟨value, hvalue⟩, (Signal.input.inj hname).symm⟩
    · obtain ⟨i, hi⟩ := hspelled.outputs_signal o ho
      rw [hi] at hname
      cases hname

end Contents

end CircuitFile

namespace ObservedCircuit

variable {r : ObservedCircuit}

/-- Nothing in a circuit of this shape refers to a component that is not there. -/
theorem WellFormed.closed (h : r.WellFormed) (healthy : ComponentSet) :
    (Query.assuming r.circuit r.observations healthy).Closed := by
  refine Query.closed_assuming ?_ ?_
  · rintro _ source ⟨c, hc, _, hinput⟩
    have hpin : ∃ pin : Pin, pin.signal c = .output source := by
      rcases List.mem_cons.mp hinput with hfirst | hinput
      · exact ⟨.first, hfirst.symm⟩
      · exact ⟨.second, (List.mem_singleton.mp hinput).symm⟩
    obtain ⟨pin, hpin⟩ := hpin
    rcases h.wired c hc pin with ⟨i, hi, hsignal⟩ | hsignal
    · rw [hpin] at hsignal
      cases hsignal
      exact hi
    · rw [hpin] at hsignal
      cases hsignal
  · intro o ho i hsignal
    obtain ⟨inputs, outputs, hobservations, hinputs, houtputs⟩ := h.observed
    rw [hobservations] at ho
    rcases List.mem_append.mp ho with ho | ho
    · obtain ⟨name, hname⟩ := hinputs o ho
      rw [hname] at hsignal
      cases hsignal
    · obtain ⟨j, hj, hoj⟩ := houtputs o ho
      rw [hoj] at hsignal
      cases hsignal
      exact hj

/-- What is read of a text is well-formed. -/
theorem WellFormed.of_parse {text : String} (h : parse text = .ok r) : r.WellFormed := by
  obtain ⟨c, hspelled, hformed, hyields⟩ := exists_spelledBy_of_parse h
  exact hyields.wellFormed hspelled hformed

end ObservedCircuit

/-- **What is read is well-formed.** Of a text that is read one component is made for each line of
the section of components, with the kind and the identifier of the line, and no component is left
out of the circuit for a repeated identifier. The circuit and its observations have the shape of
circuit files, and an extraction by the solver does not fail on them. -/
theorem wellFormed_of_parse (text : String) (r : ObservedCircuit) (h : parse text = .ok r) :
    (∃ body made, Section.components.Encloses text.toList body ∧
      List.Forall₂ (fun c line => GateLine.Spells ⟨gateWord c.kind, c.id⟩ line) made
        (trimmedLines body) ∧
      r.circuit = .ofComponents made ∧ Circuit.repeats made = [] ∧
      (r.circuit.components.map Component.id).Nodup) ∧
    r.WellFormed ∧
    ∀ extractor : Extractor Unit, ∃ conflicts,
      (extractor.extract solverOracle r.circuit r.observations).outcome = .ok conflicts := by
  obtain ⟨c, hspelled, hformed, hyields⟩ := exists_spelledBy_of_parse h
  have hwell : r.WellFormed := hyields.wellFormed hspelled hformed
  refine ⟨?_, hwell, fun extractor => ?_⟩
  · obtain ⟨body, hbody, hdeclared⟩ := hspelled.declared
    have hnodup := r.circuit.nodup_ids
    refine ⟨body, r.circuit.components, hbody, ?_, ?_, Circuit.repeats_eq_nil hnodup, hnodup⟩
    · rw [hyields.declared_eq, List.forall₂_map_left_iff] at hdeclared
      exact hdeclared
    · exact Circuit.eq_of_components_eq (Circuit.components_ofComponents hnodup).symm
  · obtain ⟨conflicts, houtcome, _⟩ := enumerates_extract extractor hwell.closed
    exact ⟨conflicts, houtcome⟩

/-- A component that reads its own output, which was seen to have both values. -/
theorem wellFormed_of_parse_contradiction :
    let text := "COMPONENTS:\nXORG(A)\nENDCOMPONENTS\n" ++
      "BEHAVIOUR:\nIN2(A) = OUT(A)\nENDBEHAVIOUR\nOBSERVATIONS:\nIN1(A)=1\nENDOBSERVATIONS\n" ++
      "OUTOBSERVATIONS:\nOUT(A)=0\nOUT(A)=1\nENDOUTOBSERVATIONS\n"
    ∃ r, parse text = .ok r ∧ r.WellFormed ∧
      r.observations = [⟨.input "IN1(A)", true⟩, ⟨.output "A", false⟩, ⟨.output "A", true⟩] ∧
      ∃ conflicts, (Extractor.extract ⟨(), {}⟩ solverOracle r.circuit r.observations).outcome =
        .ok conflicts := by
  intro text
  have hvalue : (parse text).toOption.map ObservedCircuit.observations =
      some [⟨.input "IN1(A)", true⟩, ⟨.output "A", false⟩, ⟨.output "A", true⟩] := by
    decide +kernel
  obtain ⟨r, hparse, hobservations⟩ := exists_ok_of_map_toOption hvalue
  obtain ⟨_, hwell, hextract⟩ := wellFormed_of_parse text r hparse
  exact ⟨r, hparse, hwell, hobservations, hextract ⟨(), {}⟩⟩

end CircuitDiagnosis
