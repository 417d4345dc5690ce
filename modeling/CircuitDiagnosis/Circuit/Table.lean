import CircuitDiagnosis.Log.Event
import Mathlib.Data.List.Basic

/-!
# Circuits with positions

A `CircuitTable` is a circuit as it is put together, one component after the other: the components
kept so far, their positions in a hash map by identifier, and a warning for each component that was
left out because its identifier was taken.
-/

namespace CircuitDiagnosis

/-- A circuit that is put together: the components kept so far, the position of each by its
identifier, and what was logged about the others. -/
structure CircuitTable where
  components : Array Component := #[]
  positions : Std.HashMap ComponentId Nat := {}
  events : List Event := []

namespace CircuitTable

/-- Keeps a component, unless its identifier is taken. -/
def add (t : CircuitTable) (c : Component) : CircuitTable :=
  if t.positions.contains c.id then { t with events := t.events ++ [.componentIgnored c.id] }
  else
    { t with
      components := t.components.push c
      positions := t.positions.insert c.id t.components.size }

/-- The table of a list of components. -/
def ofComponents (l : List Component) : CircuitTable := l.foldl add {}

/-- The component at the position of an identifier. -/
def component? (t : CircuitTable) (id : ComponentId) : Option Component :=
  t.positions[id]?.bind fun i => t.components[i]?

end CircuitTable

end CircuitDiagnosis
