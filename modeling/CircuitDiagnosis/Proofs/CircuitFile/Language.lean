import CircuitDiagnosis.Proofs.Circuit.Components
import CircuitDiagnosis.Proofs.CircuitFile.Reading

/-!
# The language of circuit files

With one connection for each input of a declared component the circuit can be put together
(`assemble_eq_ok_iff`), and it has exactly the components that are described. So the reader as a
whole accepts a text exactly if its lines spell contents that are in order, and gives the circuit
that these determine (`parse_eq_ok_iff_spelled`).
-/

namespace CircuitDiagnosis.CircuitFile

open Text

/-! ### The circuit -/

theorem length_signalsAt (connections : List Connection) (i : ComponentId) (pin : Pin) :
    (signalsAt connections i pin).length =
      connections.countP fun k => k.component == i && k.pin == pin := by
  unfold signalsAt
  rw [List.length_map, List.countP_eq_length_filter]

theorem mem_signalsAt {connections : List Connection} {i : ComponentId} {pin : Pin} {s : Signal} :
    s ∈ signalsAt connections i pin ↔
      ∃ k ∈ connections, k.component = i ∧ k.pin = pin ∧ k.signal = s := by
  unfold signalsAt
  simp only [List.mem_map, List.mem_filter, Bool.and_eq_true, beq_iff_eq, and_assoc]

section Once

variable {connections : List Connection} {d : Declaration}
  (honce : ∀ pin, (signalsAt connections d.id pin).length = 1)

include honce

/-- With one connection for each pin a declaration describes at most one component. -/
theorem Declaration.Describes.unique {c c' : Component} (h : d.Describes connections c)
    (h' : d.Describes connections c') : c = c' := by
  have hsignal : ∀ pin : Pin, pin.signal c = pin.signal c' := by
    intro pin
    obtain ⟨s, hs⟩ := List.length_eq_one_iff.mp (honce pin)
    have hc := mem_signalsAt.mpr (h.wired pin)
    have hc' := mem_signalsAt.mpr (h'.wired pin)
    rw [hs, List.mem_singleton] at hc hc'
    rw [hc, hc']
  cases c
  cases c'
  cases h.id_eq.trans h'.id_eq.symm
  cases h.kind_eq.trans h'.kind_eq.symm
  cases hsignal .first
  cases hsignal .second
  rfl

/-- With one connection for each pin a declared component is connected as it is described. -/
theorem exists_connected? : ∃ c, connected? connections d = some c ∧ d.Describes connections c := by
  obtain ⟨first, hfirst⟩ := List.length_eq_one_iff.mp (honce .first)
  obtain ⟨second, hsecond⟩ := List.length_eq_one_iff.mp (honce .second)
  refine ⟨⟨d.id, d.kind, first, second⟩, ?_, rfl, rfl, ?_⟩
  · unfold connected?
    rw [hfirst, hsecond]
  · rintro ⟨⟩
    · exact mem_signalsAt.mp (by rw [hfirst]; exact List.mem_singleton_self first)
    · exact mem_signalsAt.mp (by rw [hsecond]; exact List.mem_singleton_self second)

theorem connected?_eq_some_iff {c : Component} :
    connected? connections d = some c ↔ d.Describes connections c := by
  obtain ⟨c', hc', hdescribes⟩ := exists_connected? honce
  rw [hc', Option.some.injEq]
  constructor
  · rintro rfl
    exact hdescribes
  · exact fun h => hdescribes.unique honce h

end Once

theorem filterMap_eq_iff_forall₂ {α β : Type} {f : α → Option β} {R : α → β → Prop} {l : List α}
    {m : List β} (hsome : ∀ a ∈ l, ∃ b, f a = some b) (hiff : ∀ a ∈ l, ∀ b, f a = some b ↔ R a b) :
    l.filterMap f = m ↔ List.Forall₂ R l m := by
  induction l generalizing m with
  | nil => rw [List.filterMap_nil, List.forall₂_nil_left_iff, eq_comm]
  | cons a rest ih =>
      obtain ⟨⟨b, hb⟩, hsome⟩ := List.forall_mem_cons.mp hsome
      obtain ⟨ha, hiff⟩ := List.forall_mem_cons.mp hiff
      rw [List.filterMap_cons_some hb]
      constructor
      · rintro rfl
        exact .cons ((ha b).mp hb) ((ih hsome hiff).mp rfl)
      · rintro (_ | ⟨hR, hm⟩)
        cases hb.symm.trans ((ha _).mpr hR)
        rw [(ih hsome hiff).mpr hm]

theorem map_id_of_describes {declared : List Declaration} {connections : List Connection}
    {components : List Component}
    (h : List.Forall₂ (fun d c => d.Describes connections c) declared components) :
    components.map Component.id = declared.map Declaration.id := by
  induction h with
  | nil => rfl
  | cons hc _ ih => rw [List.map_cons, List.map_cons, hc.id_eq, ih]

/-- With one connection for each pin the declared components are those that are described. -/
theorem filterMap_connected?_eq_iff {declared : List Declaration} {connections : List Connection}
    {components : List Component}
    (honce : ∀ d ∈ declared, ∀ pin, (signalsAt connections d.id pin).length = 1) :
    declared.filterMap (connected? connections) = components ↔
      List.Forall₂ (fun d c => d.Describes connections c) declared components := by
  refine filterMap_eq_iff_forall₂ (fun d hd => ?_) fun d hd c => connected?_eq_some_iff (honce d hd)
  obtain ⟨c, hc, _⟩ := exists_connected? (honce d hd)
  exact ⟨c, hc⟩

/-- With one connection for each pin of distinct components the circuit has all of them. -/
theorem components_ofComponents_connected? {declared : List Declaration}
    {connections : List Connection} (hnodup : (declared.map Declaration.id).Nodup)
    (honce : ∀ d ∈ declared, ∀ pin, (signalsAt connections d.id pin).length = 1) :
    (Circuit.ofComponents (declared.filterMap (connected? connections))).components =
      declared.filterMap (connected? connections) := by
  rw [← map_id_of_describes ((filterMap_connected?_eq_iff honce).mp rfl)] at hnodup
  exact Circuit.components_ofComponents hnodup

theorem isEmpty_wrong_iff {declared : List Declaration} {connections : List Connection} :
    ((declared.map (connectionCount connections)).filter fun c =>
        !(c.first == 1 && c.second == 1)).isEmpty = true ↔
      ∀ d ∈ declared, ∀ pin, (signalsAt connections d.id pin).length = 1 := by
  rw [List.isEmpty_iff, List.filter_eq_nil_iff, List.forall_mem_map]
  refine forall₂_congr fun d _ => ?_
  rw [Bool.not_eq_true', Bool.not_eq_false, Bool.and_eq_true, beq_iff_eq, beq_iff_eq]
  constructor
  · rintro ⟨hfirst, hsecond⟩ ⟨⟩
    · exact hfirst
    · exact hsecond
  · exact fun h => ⟨h .first, h .second⟩

/-- The components and the observations can be put together if each declared component has one
connection for each pin. -/
theorem assemble_eq_ok_iff {declared : List Declaration} {connections : List Connection}
    {outputs : List Observation} {r : ObservedCircuit}
    (hnodup : (declared.map Declaration.id).Nodup) :
    assemble declared connections outputs = .ok r ↔
      (∀ d ∈ declared, ∀ pin, (signalsAt connections d.id pin).length = 1) ∧
        List.Forall₂ (fun d c => d.Describes connections c) declared r.circuit.components ∧
        r.observations = connections.filterMap Connection.observation? ++ outputs := by
  rw [← isEmpty_wrong_iff]
  unfold assemble
  simp only
  split
  · next hright =>
    have honce := isEmpty_wrong_iff.mp hright
    have hall := components_ofComponents_connected? hnodup honce
    constructor
    · rintro ⟨⟩
      exact ⟨hright, (filterMap_connected?_eq_iff honce).mp hall.symm, rfl⟩
    · rintro ⟨_, hcircuit, hobservations⟩
      have heq : Circuit.ofComponents (declared.filterMap (connected? connections)) = r.circuit :=
        Circuit.eq_of_components_eq (hall.trans ((filterMap_connected?_eq_iff honce).mpr hcircuit))
      rw [heq, ← hobservations]
  · next hwrong =>
    exact ⟨fun h => (by cases h), fun h => absurd h.1 hwrong⟩

/-! ### The whole text -/

/-- Reading the lines of contents leaves the circuit to be put together. -/
theorem parse_eq_assemble {text : String} {c : Contents} (hspelled : c.SpelledBy text.toList)
    (hformed : c.WellFormed) : parse text = assemble c.declared c.connections c.outputs := by
  obtain ⟨componentsBody, hcomponents, hdeclared⟩ := hspelled.declared
  obtain ⟨behaviourBody, observationsBody, hbehaviour, hobservations, hconnections⟩ :=
    hspelled.connections
  obtain ⟨outputsBody, houtputsBody, houtputs⟩ := hspelled.outputs
  have hreadDeclarations : readDeclarations (trimmedLines componentsBody) = .ok c.declared :=
    readDeclarations_eq_ok_iff.mpr ⟨hdeclared, hformed.distinct⟩
  have hreadConnections : (trimmedLines behaviourBody ++ trimmedLines observationsBody).mapM
      (readConnection c.declared) = .ok c.connections := by
    refine (mapM_eq_ok_iff_of_spells fun _ _ => readConnection_eq_ok_iff).mpr ⟨hconnections, ?_⟩
    exact fun k hk => ⟨hformed.targets_declared k hk, hformed.sources_declared k hk⟩
  have hreadOutputs : (trimmedLines outputsBody).mapM (readOutputObservation c.declared) =
      .ok c.outputs :=
    (mapM_eq_ok_iff_of_spells fun _ _ => readOutputObservation_eq_ok_iff).mpr
      ⟨houtputs, hformed.outputs_declared⟩
  simp only [parse, sectionLines_eq_ok_iff.mpr ⟨_, hcomponents, rfl⟩,
    sectionLines_eq_ok_iff.mpr ⟨_, hbehaviour, rfl⟩,
    sectionLines_eq_ok_iff.mpr ⟨_, hobservations, rfl⟩,
    sectionLines_eq_ok_iff.mpr ⟨_, houtputsBody, rfl⟩, ok_bind, hreadDeclarations,
    hreadConnections, hreadOutputs]

/-- What is read of a text are contents that fit together up to the connections, and the circuit is
put together from them. -/
theorem exists_spelledBy_of_parse {text : String} {r : ObservedCircuit} (h : parse text = .ok r) :
    ∃ c : Contents, c.SpelledBy text.toList ∧ c.WellFormed ∧ c.Yields r := by
  unfold parse at h
  simp only [bind_eq_ok_iff, sectionLines_eq_ok_iff] at h
  obtain ⟨_, ⟨componentsBody, hcomponents, rfl⟩, _, ⟨behaviourBody, hbehaviour, rfl⟩,
    _, ⟨observationsBody, hobservations, rfl⟩, _, ⟨outputsBody, houtputsBody, rfl⟩,
    declared, hdeclared, connections, hconnections, outputs, houtputs, h⟩ := h
  obtain ⟨hdeclared, hdistinct⟩ := readDeclarations_eq_ok_iff.mp hdeclared
  obtain ⟨hconnections, hnamed⟩ :=
    (mapM_eq_ok_iff_of_spells fun _ _ => readConnection_eq_ok_iff).mp hconnections
  obtain ⟨houtputs, hobserved⟩ :=
    (mapM_eq_ok_iff_of_spells fun _ _ => readOutputObservation_eq_ok_iff).mp houtputs
  obtain ⟨honce, hcircuit, hobservationsEq⟩ := (assemble_eq_ok_iff hdistinct).mp h
  refine ⟨⟨declared, connections, outputs⟩, ?_, ?_, hcircuit, hobservationsEq⟩
  · exact ⟨⟨_, hcomponents, hdeclared⟩, ⟨_, _, hbehaviour, hobservations, hconnections⟩,
      ⟨_, houtputsBody, houtputs⟩⟩
  · refine ⟨hdistinct, fun k hk => (hnamed k hk).1, fun k hk => (hnamed k hk).2, hobserved, ?_⟩
    intro i hi pin
    obtain ⟨d, hd, rfl⟩ := List.mem_map.mp hi
    rw [← length_signalsAt]
    exact honce d hd pin

theorem Contents.WellFormed.length_signalsAt_eq_one {c : Contents} (h : c.WellFormed) :
    ∀ d ∈ c.declared, ∀ pin, (signalsAt c.connections d.id pin).length = 1 := by
  intro d hd pin
  rw [length_signalsAt]
  exact h.connected_once d.id (List.mem_map_of_mem hd) pin

/-- Contents that fit together determine a circuit. -/
theorem Contents.WellFormed.exists_yields {c : Contents} (h : c.WellFormed) : ∃ r, c.Yields r := by
  have honce := h.length_signalsAt_eq_one
  refine ⟨⟨.ofComponents (c.declared.filterMap (connected? c.connections)), _⟩, ?_, rfl⟩
  rw [components_ofComponents_connected? h.distinct honce]
  exact (filterMap_connected?_eq_iff honce).mp rfl

/-- Of contents that a text spells and that fit together exactly the circuit that they determine is
read. -/
theorem parse_eq_ok_iff_yields {text : String} {c : Contents} {r : ObservedCircuit}
    (hspelled : c.SpelledBy text.toList) (hformed : c.WellFormed) :
    parse text = .ok r ↔ c.Yields r := by
  rw [parse_eq_assemble hspelled hformed, assemble_eq_ok_iff hformed.distinct]
  constructor
  · exact fun h => ⟨h.2.1, h.2.2⟩
  · exact fun h => ⟨hformed.length_signalsAt_eq_one, h.components, h.observations⟩

/-- **The reader accepts exactly the circuit files.** A text is read exactly if its four sections
are there and their lines spell contents that fit together; then the circuit and the observations
are the ones that these contents determine. -/
theorem parse_eq_ok_iff_spelled (text : String) :
    ((∃ r, parse text = .ok r) ↔ ∃ c : Contents, c.SpelledBy text.toList ∧ c.WellFormed) ∧
      ∀ c : Contents, c.SpelledBy text.toList → c.WellFormed →
        ∀ r, parse text = .ok r ↔ c.Yields r := by
  refine ⟨⟨?_, ?_⟩, fun c hspelled hformed r => parse_eq_ok_iff_yields hspelled hformed⟩
  · rintro ⟨r, h⟩
    obtain ⟨c, hspelled, hformed, _⟩ := exists_spelledBy_of_parse h
    exact ⟨c, hspelled, hformed⟩
  · rintro ⟨c, hspelled, hformed⟩
    obtain ⟨r, hr⟩ := hformed.exists_yields
    exact ⟨r, (parse_eq_ok_iff_yields hspelled hformed).mpr hr⟩

/-- A text with its sections in another order, with connections in both sections for them, a
component that is read before it is declared, and one that reads its own output. -/
theorem parse_eq_ok_iff_spelled_self_loop :
    let text := "OUTOBSERVATIONS:\nOUT(B) = 0\nENDOUTOBSERVATIONS\n" ++
      "OBSERVATIONS:\nIN1(A)=0\nENDOBSERVATIONS\n" ++
      "BEHAVIOUR:\n  IN2(A)=1\nIN1(B) = OUT(A)\n\nIN2(B)=OUT(B)\nENDBEHAVIOUR\n" ++
      "COMPONENTS:\nXORG(B)\nANDG(A)\nENDCOMPONENTS\n"
    ∃ (c : Contents) (r : ObservedCircuit), c.SpelledBy text.toList ∧ c.WellFormed ∧ c.Yields r ∧
      r.circuit.components = [⟨"B", .xor, .output "A", .output "B"⟩,
        ⟨"A", .and, .input "IN1(A)", .input "IN2(A)"⟩] ∧
      r.observations =
        [⟨.input "IN2(A)", true⟩, ⟨.input "IN1(A)", false⟩, ⟨.output "B", false⟩] := by
  intro text
  have hvalue : (parse text).toOption.map (fun r => (r.circuit.components, r.observations)) =
      some ([⟨"B", .xor, .output "A", .output "B"⟩, ⟨"A", .and, .input "IN1(A)", .input "IN2(A)"⟩],
        [⟨.input "IN2(A)", true⟩, ⟨.input "IN1(A)", false⟩, ⟨.output "B", false⟩]) := by
    decide +kernel
  obtain ⟨r, hparse, hr⟩ := exists_ok_of_map_toOption hvalue
  obtain ⟨hcomponents, hobservations⟩ := Prod.mk.inj hr
  obtain ⟨haccepted, hdetermined⟩ := parse_eq_ok_iff_spelled text
  obtain ⟨c, hspelled, hformed⟩ := haccepted.mp ⟨r, hparse⟩
  exact ⟨c, r, hspelled, hformed, (hdetermined c hspelled hformed r).mp hparse, hcomponents,
    hobservations⟩

end CircuitDiagnosis.CircuitFile
