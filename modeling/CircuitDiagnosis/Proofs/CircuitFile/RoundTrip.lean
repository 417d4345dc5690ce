import CircuitDiagnosis.Proofs.CircuitFile.Connections

/-!
# Reading what was written

A circuit of the shape of circuit files is read from its text just as it was written
(`parse_render`), in whatever order its wiring is written. Reading and writing meet at the contents
of the text (`ObservedCircuit.spelledBy_contents`): the text spells them, and they determine the
circuit.
-/

namespace CircuitDiagnosis

namespace ObservedCircuit

open CircuitFile

variable {r : ObservedCircuit}

/-- The lines that are written of a circuit, with the lines of its wiring in some order. -/
def lines (r : ObservedCircuit) (wires : List String) : Section → List String
  | .components => r.circuit.components.map gateLine
  | .behaviour => wires
  | .observations => (r.observations.filter ofInput).map observationLine
  | .outObservations => (r.observations.filter fun o => !ofInput o).map observationLine

section Written

variable {wired constants : List Connection} (h : r.WellFormed)
  (hconnected : r.ConnectedBy (wired ++ constants))
  (hconstants : List.Forall₂ (fun k o => k.observation? = some o) constants
    (r.observations.filter ofInput))
  (hnames : ∀ i ∈ r.circuit.ids, IsName i)

include h hconnected hconstants hnames

theorem isPlain_lines (s : Section) :
    ∀ l ∈ r.lines (wired.map Connection.line) s, l.toList ≠ [] ∧ IsPlain l.toList := by
  have hconnections : ∀ k ∈ wired ++ constants, k.line.toList ≠ [] ∧ IsPlain k.line.toList := by
    intro k hk
    refine ⟨by simp [k.toList_line], Connection.isPlain_line ?_ fun i hi => ?_⟩
    · exact hnames _ (hconnected.component_mem_ids k hk)
    · exact hnames i (hconnected.source_mem_ids h k hk i hi)
  cases s with
  | components =>
      refine List.forall_mem_map.mpr fun c hc => ⟨by simp [toList_gateLine], isPlain_gateLine ?_⟩
      exact hnames c.id (List.mem_map_of_mem hc)
  | behaviour =>
      exact List.forall_mem_map.mpr fun k hk => hconnections k (List.mem_append_left _ hk)
  | observations =>
      unfold lines
      rw [← map_line_eq hconstants]
      exact List.forall_mem_map.mpr fun k hk => hconnections k (List.mem_append_right _ hk)
  | outObservations =>
      refine List.forall_mem_map.mpr fun o ho => ?_
      obtain ⟨i, hi, hsignal⟩ := h.exists_of_not_ofInput o ho
      refine ⟨by simp [toList_observationLine hsignal], ?_⟩
      exact isPlain_observationLine (hnames i hi) hsignal

/-- The text that is written spells the contents that are written. -/
theorem spelledBy_contents : (r.contents (wired ++ constants)).SpelledBy
    (renderLines (r.lines (wired.map Connection.line))).toList := by
  have hsection := exists_encloses_renderLines (isPlain_lines h hconnected hconstants hnames)
  refine ⟨?_, ?_, ?_⟩
  · obtain ⟨body, hbody, htrimmed⟩ := hsection .components
    refine ⟨body, hbody, ?_⟩
    rw [htrimmed]
    unfold contents lines
    rw [List.map_map, List.forall₂_map_left_iff, List.forall₂_map_right_iff, List.forall₂_same]
    exact fun c hc => spells_gateLine (hnames c.id (List.mem_map_of_mem hc))
  · obtain ⟨behaviour, hbehaviour, htrimmed⟩ := hsection .behaviour
    obtain ⟨observations, hobservations, htrimmed'⟩ := hsection .observations
    refine ⟨behaviour, observations, hbehaviour, hobservations, ?_⟩
    rw [htrimmed, htrimmed']
    unfold contents lines
    rw [← map_line_eq hconstants, ← List.map_append, ← List.map_append, List.map_map,
      List.forall₂_map_right_iff, List.forall₂_same]
    intro k hk
    refine Connection.spells_line (hnames _ (hconnected.component_mem_ids k hk)) fun i hi => ?_
    exact hnames i (hconnected.source_mem_ids h k hk i hi)
  · obtain ⟨body, hbody, htrimmed⟩ := hsection .outObservations
    refine ⟨body, hbody, ?_⟩
    rw [htrimmed]
    unfold contents lines
    rw [List.map_map, List.forall₂_map_right_iff, List.forall₂_same]
    intro o ho
    obtain ⟨i, hi, hsignal⟩ := h.exists_of_not_ofInput o ho
    exact spells_observationLine (hnames i hi) hsignal

end Written

/-- The circuit is read from its lines, in whatever order its wiring is written. -/
theorem WellFormed.parse_renderLines (h : r.WellFormed)
    (hwords : ∀ i ∈ r.circuit.ids, ∀ w ∈ sectionWords, ¬ w.toList <:+: i.toList)
    {wires : List String} (hwires : wires.Perm (r.circuit.components.flatMap wireLines)) :
    parse (renderLines (r.lines wires)) = .ok r := by
  have hnames : ∀ i ∈ r.circuit.ids, IsName i := fun i hi => ⟨h.identifiers i hi, hwords i hi⟩
  rw [flatMap_wireLines_eq] at hwires
  obtain ⟨wired, hperm, rfl⟩ := exists_eq_map_of_perm hwires
  obtain ⟨constants, hconstants⟩ := h.exists_constants
  have hconnected := h.connectedBy hperm hconstants
  exact (parse_eq_ok_iff_yields (spelledBy_contents h hconnected hconstants hnames)
    (hconnected.wellFormed h)).mpr (hconnected.yields h)

end ObservedCircuit

namespace CircuitFile

/-- **Reading undoes writing.** A circuit of the shape of circuit files, no identifier of which
holds a word of the markers, is read from its text with the same components and the same
observations, both in their order. The lines of the wiring may be written in any order. -/
theorem parse_render (r : ObservedCircuit) (h : r.WellFormed)
    (hwords : ∀ i ∈ r.circuit.ids, ∀ w ∈ sectionWords, ¬ w.toList <:+: i.toList) :
    parse (render r) = .ok r ∧
      ∀ wires : List String, wires.Perm (r.circuit.components.flatMap wireLines) →
        parse (renderLines (r.lines wires)) = .ok r :=
  ⟨h.parse_renderLines hwords (List.Perm.refl _), fun _ hwires => h.parse_renderLines hwords hwires⟩

/-- A component that reads itself and another one, with unusual identifiers. The inputs were
observed in another order than that of the pins, and an output was seen to have both values. -/
theorem parse_render_unusual_identifiers :
    let r : ObservedCircuit :=
      ⟨⟨[⟨"=OUT:", .xor, .output "=OUT:", .output "\u00e9="⟩,
          ⟨"\u00e9=", .and, .input "IN1(\u00e9=)", .input "IN2(\u00e9=)"⟩], by decide⟩,
        [⟨.input "IN2(\u00e9=)", true⟩, ⟨.input "IN1(\u00e9=)", false⟩,
          ⟨.output "\u00e9=", true⟩, ⟨.output "\u00e9=", false⟩]⟩
    parse (render r) = .ok r ∧
      parse (renderLines (r.lines ["IN2(=OUT:)=OUT(\u00e9=)", "IN1(=OUT:)=OUT(=OUT:)"])) =
        .ok r := by
  intro r
  have hwell : r.WellFormed := by
    refine ⟨?_, fun c hc pin => ?_, ?_, fun c hc pin name hname => ?_, fun o ho name hname => ?_⟩
    · have hidentifiers : ∀ i ∈ r.circuit.ids,
          i.toList ≠ [] ∧ i.toList.all isIdentifier = true := by decide +kernel
      exact fun i hi => ⟨(hidentifiers i hi).1, List.all_eq_true.mp (hidentifiers i hi).2⟩
    · cases pin <;> revert c <;> decide +kernel
    · have hinputs : ∀ o ∈ r.observations.take 2, ofInput o = true := by decide +kernel
      refine ⟨r.observations.take 2, r.observations.drop 2, rfl, fun o ho => ?_, by decide +kernel⟩
      exact ofInput_eq_true_iff.mp (hinputs o ho)
    · have honce : ∀ c ∈ r.circuit.components, ∀ s ∈ [Pin.first.signal c, Pin.second.signal c],
          s.rank = 0 → r.observations.countP (fun o => o.signal == s) = 1 := by decide +kernel
      rw [← hname]
      refine honce c hc _ (by cases pin <;> simp) ?_
      rw [hname]
      rfl
    · have hread : ∀ o ∈ r.observations, ofInput o = true → ∃ c ∈ r.circuit.components,
          Pin.first.signal c = o.signal ∨ Pin.second.signal c = o.signal := by decide +kernel
      obtain ⟨c, hc, hsignal | hsignal⟩ := hread o ho (ofInput_eq_true_iff.mpr ⟨name, hname⟩)
      · exact ⟨c, hc, .first, hsignal.trans hname⟩
      · exact ⟨c, hc, .second, hsignal.trans hname⟩
  obtain ⟨hrender, hwires⟩ := parse_render r hwell (by decide +kernel)
  exact ⟨hrender, hwires _ (List.Perm.swap _ _ _)⟩

end CircuitFile

end CircuitDiagnosis
