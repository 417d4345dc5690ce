import CircuitDiagnosis.Circuit.Basic
import Mathlib.Data.List.Nodup

/-!
# Circuits of distinct components

A circuit is determined by the list of its components (`Circuit.eq_of_components_eq`). Making a
circuit of components with distinct identifiers leaves out none of them
(`Circuit.components_ofComponents`, `Circuit.repeats_eq_nil`).
-/

namespace CircuitDiagnosis.Circuit

theorem eq_of_components_eq {c d : Circuit} (h : c.components = d.components) : c = d := by
  cases c
  cases d
  cases h
  rfl

theorem eq_of_id_eq {circuit : Circuit} {c d : Component} (hc : c ∈ circuit.components)
    (hd : d ∈ circuit.components) (h : c.id = d.id) : c = d :=
  List.inj_on_of_nodup_map circuit.nodup_ids hc hd h

/-- Components of new and distinct identifiers all stay. -/
theorem firstOccurrences_eq_self {seen : List ComponentId} {l : List Component}
    (hnodup : (l.map Component.id).Nodup) (hseen : ∀ c ∈ l, c.id ∉ seen) :
    firstOccurrences seen l = l ∧ repeatsAfter seen l = [] := by
  induction l generalizing seen with
  | nil => exact ⟨rfl, rfl⟩
  | cons c rest ih =>
      obtain ⟨hc, hrest⟩ := List.nodup_cons.mp hnodup
      obtain ⟨hcseen, hrestseen⟩ := List.forall_mem_cons.mp hseen
      have hnew : ∀ d ∈ rest, d.id ∉ c.id :: seen := by
        intro d hd hmem
        rcases List.mem_cons.mp hmem with he | hmem
        · exact hc (he ▸ List.mem_map_of_mem hd)
        · exact hrestseen d hd hmem
      obtain ⟨hfirst, hrepeats⟩ := ih hrest hnew
      rw [firstOccurrences, repeatsAfter, if_neg hcseen, if_neg hcseen, hfirst, hrepeats]
      exact ⟨rfl, rfl⟩

theorem components_ofComponents {l : List Component} (h : (l.map Component.id).Nodup) :
    (ofComponents l).components = l :=
  (firstOccurrences_eq_self h fun _ _ hmem => (by cases hmem)).1

theorem repeats_eq_nil {l : List Component} (h : (l.map Component.id).Nodup) : repeats l = [] :=
  (firstOccurrences_eq_self h fun _ _ hmem => (by cases hmem)).2

end CircuitDiagnosis.Circuit
