import CircuitDiagnosis.Circuit.Table
import CircuitDiagnosis.Proofs.Circuit.Propagation

/-!
# The positions of the components

`CircuitTable.Tabulates` says what the components, the positions and the warnings of a table are
behind a list of components. Each component that comes next keeps it so
(`CircuitTable.Tabulates.add`), and hence the array and the map agree however often identifiers are
repeated.

What a circuit keeps of a list is told by places: the components that have no earlier one of their
identifier, in order (`Circuit.components_ofComponents_eq_filter`), the first one of each identifier
(`Circuit.component?_ofComponents`).
-/

namespace CircuitDiagnosis

/-! ### First occurrences and repeats -/

namespace Circuit

/-- Whether the component at a place of a list has the identifier of an earlier one. -/
def isRepeat (l : List Component) (p : Component × Nat) : Bool :=
  decide (p.1.id ∈ (l.take p.2).map Component.id)

/-- A component behind all others is kept exactly if none of them has its identifier, and else its
identifier is a repeat. -/
theorem firstOccurrences_concat (seen : List ComponentId) (l : List Component) (c : Component) :
    firstOccurrences seen (l ++ [c]) = firstOccurrences seen l ++
        (if c.id ∈ seen ∨ c.id ∈ l.map Component.id then [] else [c]) ∧
      repeatsAfter seen (l ++ [c]) = repeatsAfter seen l ++
        if c.id ∈ seen ∨ c.id ∈ l.map Component.id then [c.id] else [] := by
  induction l generalizing seen with
  | nil => simp [firstOccurrences, repeatsAfter]
  | cons d rest ih =>
      have htaken : c.id ∈ seen ∨ c.id ∈ (d :: rest).map Component.id ↔
          c.id ∈ d.id :: seen ∨ c.id ∈ rest.map Component.id := by
        simp only [List.map_cons, List.mem_cons]
        tauto
      rw [List.cons_append, firstOccurrences, firstOccurrences, repeatsAfter, repeatsAfter]
      by_cases hd : d.id ∈ seen
      · have hsame : c.id ∈ d.id :: seen ↔ c.id ∈ seen := by
          rw [List.mem_cons]
          exact ⟨fun h => h.elim (fun he => he ▸ hd) id, Or.inr⟩
        obtain ⟨hfirst, hrepeat⟩ := ih seen
        simp only [htaken, hsame, if_pos hd, hfirst, hrepeat, List.cons_append, and_self]
      · obtain ⟨hfirst, hrepeat⟩ := ih (d.id :: seen)
        simp only [htaken, if_neg hd, hfirst, hrepeat, List.cons_append, and_self]

/-- One more component does not change which of the others are repeats. -/
theorem filter_isRepeat_concat (keeps : Bool → Bool) (l : List Component) (c : Component) :
    ((l ++ [c]).zipIdx.filter fun p => keeps (isRepeat (l ++ [c]) p)) =
      (l.zipIdx.filter fun p => keeps (isRepeat l p)) ++
        if keeps (decide (c.id ∈ l.map Component.id)) then [(c, l.length)] else [] := by
  rw [List.zipIdx_append, List.filter_append]
  congr 1
  · refine List.filter_congr fun p hp => ?_
    have hlt : p.2 < l.length := (List.mem_zipIdx' hp).1
    unfold isRepeat
    rw [List.take_append_of_le_length hlt.le]
  · simp [isRepeat, List.filter_cons]

/-- A circuit keeps the components that have no earlier one of their identifier. -/
theorem components_ofComponents_eq_filter (l : List Component) :
    (ofComponents l).components = (l.zipIdx.filter fun p => !isRepeat l p).map Prod.fst := by
  change firstOccurrences [] l = _
  induction l using List.reverseRecOn with
  | nil => rfl
  | append_singleton l c ih =>
      rw [(firstOccurrences_concat [] l c).1, filter_isRepeat_concat, List.map_append, ih]
      by_cases hc : c.id ∈ l.map Component.id <;> simp [hc]

/-- The repeats are the identifiers of the other components. -/
theorem repeats_eq_filter (l : List Component) :
    repeats l = (l.zipIdx.filter (isRepeat l)).map fun p => p.1.id := by
  change repeatsAfter [] l = _
  induction l using List.reverseRecOn with
  | nil => rfl
  | append_singleton l c ih =>
      have hfilter : (l ++ [c]).zipIdx.filter (isRepeat (l ++ [c])) = _ :=
        filter_isRepeat_concat id l c
      rw [(firstOccurrences_concat [] l c).2, hfilter, List.map_append, ih]
      by_cases hc : c.id ∈ l.map Component.id <;> simp [hc]

/-- Identifiers that are new are looked up as in the list itself. -/
theorem find?_firstOccurrences {seen : List ComponentId} {id : ComponentId} (h : id ∉ seen)
    (l : List Component) :
    ((firstOccurrences seen l).find? fun c => c.id == id) = l.find? fun c => c.id == id := by
  induction l generalizing seen with
  | nil => rfl
  | cons c rest ih =>
      rw [firstOccurrences]
      by_cases hc : c.id = id
      · have hnew : c.id ∉ seen := fun hseen => h (hc ▸ hseen)
        simp only [if_neg hnew, List.find?_cons, beq_iff_eq.mpr hc]
      · have hother : (c.id == id) = false := beq_eq_false_iff_ne.mpr hc
        split
        · simp only [List.find?_cons, hother]
          exact ih h
        · simp only [List.find?_cons, hother]
          exact ih (List.not_mem_cons_of_ne_of_not_mem (Ne.symm hc) h)

/-- The component of an identifier is the first one of the list. -/
theorem component?_ofComponents (l : List Component) (id : ComponentId) :
    (ofComponents l).component? id = l.find? fun c => c.id == id :=
  find?_firstOccurrences List.not_mem_nil l

theorem contains_eq_isSome (circuit : Circuit) (id : ComponentId) :
    circuit.contains id = (circuit.component? id).isSome :=
  List.isSome_find?.symm

theorem mem_ids_ofComponents {l : List Component} {id : ComponentId} :
    id ∈ (ofComponents l).ids ↔ id ∈ l.map Component.id := by
  rw [← contains_iff, contains_eq_isSome, component?_ofComponents, List.find?_isSome]
  simp only [List.mem_map, beq_iff_eq]

/-- Each component stands at the position of its identifier. -/
theorem position?_eq_some_iff {circuit : Circuit} {id : ComponentId} {i : Nat} :
    circuit.position? id = some i ↔ ∃ c, circuit.components[i]? = some c ∧ c.id = id := by
  unfold position?
  rw [List.findIdx?_eq_some_iff_getElem]
  constructor
  · rintro ⟨hi, hid, _⟩
    exact ⟨_, List.getElem?_eq_getElem hi, beq_iff_eq.mp hid⟩
  · rintro ⟨c, hc, rfl⟩
    obtain ⟨hi, rfl⟩ := List.getElem?_eq_some_iff.mp hc
    refine ⟨hi, beq_self_eq_true _, fun j hj heq => ?_⟩
    have hsame : circuit.components[j] = circuit.components[i] :=
      circuit.eq_of_id_eq (List.getElem_mem _) (List.getElem_mem _) (beq_iff_eq.mp heq)
    have hnodup : circuit.components.Nodup := circuit.nodup_ids.of_map _
    exact hj.ne (hnodup.getElem_inj_iff.mp hsame)

theorem component?_eq_bind (circuit : Circuit) (id : ComponentId) :
    circuit.component? id = (circuit.position? id).bind fun i => circuit.components[i]? :=
  List.find?_eq_bind_findIdx?_getElem?

end Circuit

/-! ### The table -/

namespace CircuitTable

/-- Exactly the identifiers of the components have a position, and it is the one at which the
component of that identifier stands. -/
def Positioned (t : CircuitTable) : Prop :=
  ∀ (id : ComponentId) (i : Nat),
    t.positions[id]? = some i ↔ ∃ c, t.components[i]? = some c ∧ c.id = id

/-- The table holds what a circuit keeps of the components, with their positions, and a warning for
each repeat. -/
structure Tabulates (t : CircuitTable) (l : List Component) : Prop where
  kept : t.components.toList = (Circuit.ofComponents l).components
  warned : t.events = (Circuit.repeats l).map .componentIgnored
  positioned : t.Positioned

variable {t : CircuitTable} {l : List Component}

/-- A component of a new identifier takes the position behind all others. -/
theorem Positioned.push (h : t.Positioned) {c : Component} (hnew : t.positions[c.id]? = none)
    (events : List Event) :
    Positioned ⟨t.components.push c, t.positions.insert c.id t.components.size, events⟩ := by
  intro id i
  rw [Std.HashMap.getElem?_insert, Array.getElem?_push]
  by_cases hid : c.id = id
  · -- No other component has the identifier.
    subst hid
    have hother : ¬ ∃ d, t.components[i]? = some d ∧ d.id = c.id := by
      rw [← h, hnew]
      exact nofun
    rw [if_pos (beq_self_eq_true _)]
    by_cases hi : i = t.components.size
    · simp [hi]
    · simp only [if_neg hi, hother, iff_false]
      exact fun he => hi (Option.some_inj.mp he).symm
  · rw [if_neg fun he => hid (beq_iff_eq.mp he), h]
    by_cases hi : i = t.components.size
    · simp [hi, hid]
    · rw [if_neg hi]

theorem tabulates_empty : Tabulates {} [] := by
  refine ⟨rfl, rfl, fun id i => ?_⟩
  simp

namespace Tabulates

theorem position?_eq (h : t.Tabulates l) (id : ComponentId) :
    t.positions[id]? = (Circuit.ofComponents l).position? id := by
  refine Option.ext fun i => ?_
  rw [h.positioned, Circuit.position?_eq_some_iff, ← h.kept, Array.getElem?_toList]

theorem component?_eq (h : t.Tabulates l) (id : ComponentId) :
    t.component? id = (Circuit.ofComponents l).component? id := by
  rw [component?, h.position?_eq, Circuit.component?_eq_bind, ← h.kept]
  simp only [Array.getElem?_toList]

theorem contains_eq (h : t.Tabulates l) (id : ComponentId) :
    t.positions.contains id = (Circuit.ofComponents l).contains id := by
  rw [Std.HashMap.contains_eq_isSome_getElem?, h.position?_eq]
  exact List.findIdx?_isSome

theorem contains_iff (h : t.Tabulates l) {id : ComponentId} :
    t.positions.contains id = true ↔ id ∈ l.map Component.id := by
  rw [h.contains_eq, Circuit.contains_iff, Circuit.mem_ids_ofComponents]

/-- A component that comes next is kept in its position or warned about. -/
theorem add (h : t.Tabulates l) (c : Component) : (t.add c).Tabulates (l ++ [c]) := by
  obtain ⟨hfirst, hrepeat⟩ := Circuit.firstOccurrences_concat [] l c
  have htaken : c.id ∈ ([] : List ComponentId) ∨ c.id ∈ l.map Component.id ↔
      t.positions.contains c.id = true := by
    rw [h.contains_iff, or_iff_right List.not_mem_nil]
  simp only [htaken] at hfirst hrepeat
  unfold CircuitTable.add
  by_cases hc : t.positions.contains c.id = true
  · rw [if_pos hc] at hfirst hrepeat ⊢
    refine ⟨?_, ?_, h.positioned⟩
    · rw [List.append_nil] at hfirst
      exact h.kept.trans hfirst.symm
    · rw [Circuit.repeats, hrepeat, List.map_append, h.warned]
      rfl
  · rw [if_neg hc] at hfirst hrepeat ⊢
    refine ⟨?_, ?_, h.positioned.push ?_ t.events⟩
    · rw [Array.toList_push, h.kept]
      exact hfirst.symm
    · rw [Circuit.repeats, hrepeat, List.append_nil]
      exact h.warned
    · rw [Std.HashMap.contains_eq_isSome_getElem?, Option.not_isSome_iff_eq_none] at hc
      exact hc

end Tabulates

theorem tabulates_ofComponents (l : List Component) : (ofComponents l).Tabulates l := by
  unfold ofComponents
  induction l using List.reverseRecOn with
  | nil => exact tabulates_empty
  | append_singleton l c ih =>
      rw [List.foldl_concat]
      exact ih.add c

end CircuitTable

/-- **What a circuit keeps of a list of components.** It keeps those that have no earlier one of
their identifier, in order, and the table that is put together component by component holds the same
ones, with a warning for each other component, in order. In the table exactly the identifiers of the
components kept have a position, and it is within the components and holds the component of that
identifier. So a look-up by position finds the first component of the list with an identifier, and
nothing if there is none. There are as many components as identifiers, and the components of a
circuit make the same circuit again without any warning. -/
theorem CircuitTable.represents_first_occurrences (l : List Component) :
    let circuit := Circuit.ofComponents l
    let table := CircuitTable.ofComponents l
    let again := CircuitTable.ofComponents circuit.components
    circuit.components = (l.zipIdx.filter fun p => !Circuit.isRepeat l p).map Prod.fst ∧
      table.components.toList = circuit.components ∧
      table.events = (Circuit.repeats l).map Event.componentIgnored ∧
      table.events.map (fun e => (e.level, e.message)) =
        (l.zipIdx.filter (Circuit.isRepeat l)).map
          (fun p => (Level.warn, "Ignoring duplicate component " ++ p.1.id)) ∧
      (∀ id i, table.positions[id]? = some i ↔
        ∃ h : i < table.components.size, table.components[i].id = id) ∧
      (∀ id, circuit.component? id = l.find? fun c => c.id == id) ∧
      (∀ id, table.positions[id]? = circuit.position? id ∧
        table.component? id = circuit.component? id ∧
        table.positions.contains id = circuit.contains id ∧
        circuit.contains id = (circuit.component? id).isSome) ∧
      circuit.size = circuit.all.size ∧
      Circuit.ofComponents circuit.components = circuit ∧
      again.components = table.components ∧ again.events = [] := by
  intro circuit table again
  have htable : table.Tabulates l := tabulates_ofComponents l
  have hagain : again.Tabulates circuit.components := tabulates_ofComponents circuit.components
  have hsame : Circuit.ofComponents circuit.components = circuit :=
    Circuit.eq_of_components_eq (Circuit.components_ofComponents circuit.nodup_ids)
  refine ⟨Circuit.components_ofComponents_eq_filter l, htable.kept, htable.warned, ?_,
    fun id i => ?_, Circuit.component?_ofComponents l, fun id => ⟨htable.position?_eq id,
      htable.component?_eq id, htable.contains_eq id, circuit.contains_eq_isSome id⟩,
    circuit.size_all.symm, hsame, ?_, ?_⟩
  · rw [htable.warned, Circuit.repeats_eq_filter, List.map_map, List.map_map]
    rfl
  · rw [htable.positioned]
    simp only [Array.getElem?_eq_some_iff]
    constructor
    · rintro ⟨c, ⟨hi, rfl⟩, hid⟩
      exact ⟨hi, hid⟩
    · rintro ⟨hi, hid⟩
      exact ⟨_, ⟨hi, rfl⟩, hid⟩
  · rw [← Array.toList_inj, hagain.kept, hsame, htable.kept]
  · rw [hagain.warned, Circuit.repeats_eq_nil circuit.nodup_ids]
    rfl

example :
    let gate (id : ComponentId) (kind : GateKind) : Component := ⟨id, kind, .input "a", .input "b"⟩
    let l := [gate "B" .and, gate "A" .or, gate "B" .xor, gate "A" .or, gate "C" .and]
    (Circuit.ofComponents l).components = [gate "B" .and, gate "A" .or, gate "C" .and] ∧
      Circuit.repeats l = ["B", "A"] := by
  decide

end CircuitDiagnosis
