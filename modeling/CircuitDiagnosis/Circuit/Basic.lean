import CircuitDiagnosis.Circuit.Component

/-!
# Circuits

A circuit is a list of components with pairwise distinct identifiers. `Circuit.ofComponents` makes
one of any list: of several components with one identifier the first one stays, and `repeats`
lists the identifiers of the others. Nothing is asked of the wiring, which may be cyclic and may
refer to components that do not exist.
-/

namespace CircuitDiagnosis

/-- The components of a circuit, in their order of declaration. -/
structure Circuit where
  components : List Component
  nodup_ids : (components.map Component.id).Nodup

namespace Circuit

/-- The components that are the first of their identifier and whose identifier is not in `seen`. -/
def firstOccurrences (seen : List ComponentId) : List Component → List Component
  | [] => []
  | c :: rest =>
    if c.id ∈ seen then firstOccurrences seen rest
    else c :: firstOccurrences (c.id :: seen) rest

/-- The identifiers of the components that `firstOccurrences` leaves out, in order. -/
def repeatsAfter (seen : List ComponentId) : List Component → List ComponentId
  | [] => []
  | c :: rest =>
    if c.id ∈ seen then c.id :: repeatsAfter seen rest
    else repeatsAfter (c.id :: seen) rest

theorem not_mem_of_mem_firstOccurrences {seen : List ComponentId} {l : List Component}
    {i : ComponentId} (h : i ∈ (firstOccurrences seen l).map Component.id) : i ∉ seen := by
  induction l generalizing seen with
  | nil => simp [firstOccurrences] at h
  | cons c rest ih =>
    simp only [firstOccurrences] at h
    split at h
    · exact ih h
    · next hc =>
      simp only [List.map_cons, List.mem_cons] at h
      rcases h with rfl | h
      · exact hc
      · exact fun hi => ih h (List.mem_cons_of_mem _ hi)

theorem nodup_firstOccurrences (seen : List ComponentId) (l : List Component) :
    ((firstOccurrences seen l).map Component.id).Nodup := by
  induction l generalizing seen with
  | nil => simp [firstOccurrences]
  | cons c rest ih =>
    simp only [firstOccurrences]
    split
    · exact ih seen
    · refine List.nodup_cons.2 ⟨fun h => ?_, ih _⟩
      exact not_mem_of_mem_firstOccurrences h (by simp)

/-- The circuit of a list of components; a repeated identifier is ignored after its first use. -/
def ofComponents (l : List Component) : Circuit :=
  ⟨firstOccurrences [] l, nodup_firstOccurrences [] l⟩

/-- The identifiers of the components that `ofComponents` ignores, in order. -/
def repeats (l : List Component) : List ComponentId := repeatsAfter [] l

/-- The circuit without components. -/
def empty : Circuit := ofComponents []

instance : Inhabited Circuit := ⟨empty⟩

variable (circuit : Circuit)

/-- The identifiers of the components, in their order of declaration. -/
def ids : List ComponentId := circuit.components.map Component.id

/-- The set of all components. -/
def all : ComponentSet := OrdSet.ofList circuit.ids

/-- The number of components. -/
def size : Nat := circuit.components.length

/-- Whether the circuit has no component. -/
def isEmpty : Bool := circuit.components.isEmpty

/-- The component with an identifier. -/
def component? (id : ComponentId) : Option Component :=
  circuit.components.find? fun c => c.id == id

/-- The place of the component with an identifier in the order of declaration. -/
def position? (id : ComponentId) : Option Nat :=
  circuit.components.findIdx? fun c => c.id == id

/-- Whether some component has this identifier. -/
def contains (id : ComponentId) : Bool := circuit.components.any fun c => c.id == id

theorem contains_iff {circuit : Circuit} {id : ComponentId} :
    circuit.contains id = true ↔ id ∈ circuit.ids := by
  simp [contains, ids]

end Circuit

end CircuitDiagnosis
