import CircuitDiagnosis.Proofs.Text.Line
import CircuitDiagnosis.Statistics.Casing

/-!
# Casing keeps a name on one line

No letter case of a character is a line feed, except that of the line feed itself, and the words of
a name have characters of the name only. So a name without line feeds has none in a style that joins
its words without any (`Casing.lineFeed_not_mem_apply_ofWords`), whatever other characters there are
in it.
-/

namespace CircuitDiagnosis

namespace Text

theorem ofNat_ne_lineFeed {n : Nat} (h : 10 < n) : Char.ofNat n ≠ '\n' := by
  intro he
  by_cases hvalid : n.isValidChar
  · have hnat : (Char.ofNat n).toNat = n := by
      rw [Char.ofNat, dif_pos hvalid]
      rfl
    rw [he] at hnat
    exact absurd hnat (Nat.ne_of_lt h)
  · rw [Char.ofNat, dif_neg hvalid] at he
    exact absurd he (by decide)

/-- No image of another character is a line feed if all images are behind it. -/
theorem lineFeed_not_mem_mapCase {ranges : List CaseRange} {expansions : List (Nat × List Nat)}
    (hranges : ∀ r ∈ ranges, 10 < r.image) (hexpansions : ∀ e ∈ expansions, ∀ n ∈ e.2, 10 < n)
    {c : Char} (hc : c ≠ '\n') : '\n' ∉ mapCase ranges expansions c := by
  intro h
  unfold mapCase at h
  split at h
  · next image hlookup =>
    obtain ⟨n, hn, he⟩ := List.mem_map.mp h
    obtain ⟨before, after, rfl, _⟩ := List.lookup_eq_some_iff.mp hlookup
    have hmem : (c.toNat, image) ∈ before ++ (c.toNat, image) :: after :=
      List.mem_append_right before List.mem_cons_self
    exact ofNat_ne_lineFeed (hexpansions _ hmem n hn) he
  · split at h
    · next n hfound =>
      obtain ⟨r, hr, hn⟩ := List.exists_of_findSome?_eq_some hfound
      unfold CaseRange.apply? at hn
      split at hn
      · cases hn
        have himage := hranges r hr
        exact ofNat_ne_lineFeed (by omega) (List.mem_singleton.mp h).symm
      · cases hn
    · exact hc (List.mem_singleton.mp h).symm

theorem lineFeed_not_mem_toUpper {c : Char} (hc : c ≠ '\n') : '\n' ∉ toUpper c :=
  lineFeed_not_mem_mapCase (by decide +kernel) (by decide +kernel) hc

theorem lineFeed_not_mem_toLower {c : Char} (hc : c ≠ '\n') : '\n' ∉ toLower c :=
  lineFeed_not_mem_mapCase (by decide +kernel) (by decide +kernel) hc

theorem lineFeed_not_mem_lowerAfter {cs : List Char} (passed : List Char) (h : '\n' ∉ cs) :
    '\n' ∉ lowerAfter passed cs := by
  induction cs generalizing passed with
  | nil => exact h
  | cons c rest ih =>
      obtain ⟨hc, hrest⟩ := not_or.mp (mt List.mem_cons.mpr h)
      rw [lowerAfter, List.mem_append, not_or]
      refine ⟨?_, ih (c :: passed) hrest⟩
      split
      · unfold lowerSigma
        split <;> decide
      · exact lineFeed_not_mem_toLower fun he => hc he.symm

theorem lineFeed_not_mem_lower {cs : List Char} (h : '\n' ∉ cs) : '\n' ∉ lower cs :=
  lineFeed_not_mem_lowerAfter [] h

end Text

namespace Casing

/-- The words have characters of the clusters only. -/
theorem mem_flatten_of_mem_wordsAfter {before : Option (List Char)} {clusters : List (List Char)}
    {word : List Char} (h : word ∈ wordsAfter before clusters) :
    ∀ c ∈ word, c ∈ clusters.flatten := by
  induction clusters generalizing before word with
  | nil =>
      rw [wordsAfter, List.mem_singleton] at h
      rw [h]
      exact fun c hc => hc
  | cons cluster rest ih =>
      rw [List.flatten_cons]
      have hrest : ∀ w ∈ wordsAfter (some cluster) rest, ∀ c ∈ w, c ∈ cluster ++ rest.flatten :=
        fun w hw c hc => List.mem_append_right cluster (ih hw c hc)
      have hempty : ∀ c ∈ ([] : List Char), c ∈ cluster ++ rest.flatten := fun c hc => (by cases hc)
      -- The cluster goes to the first word of the rest, which may be none.
      have hcurrent : ∀ w ∈ (cluster ++ (wordsAfter (some cluster) rest).headD []) ::
          (wordsAfter (some cluster) rest).tail, ∀ c ∈ w, c ∈ cluster ++ rest.flatten := by
        refine List.forall_mem_cons.mpr ⟨fun c hc => ?_,
          fun w hw => hrest w (List.mem_of_mem_tail hw)⟩
        rcases List.mem_append.mp hc with hc | hc
        · exact List.mem_append_left _ hc
        · cases hwords : wordsAfter (some cluster) rest with
          | nil =>
              rw [hwords] at hc
              cases hc
          | cons w ws =>
              rw [hwords] at hc
              exact hrest w (hwords ▸ List.mem_cons_self) c hc
      simp only [wordsAfter] at h
      split at h
      · exact List.forall_mem_cons.mpr ⟨hempty, hrest⟩ word h
      · split at h
        · exact List.forall_mem_cons.mpr ⟨hempty, hcurrent⟩ word h
        · exact hcurrent word h

theorem lineFeed_not_mem_words {name : String} (h : '\n' ∉ name.toList) :
    ∀ word ∈ words name, '\n' ∉ word := by
  intro word hword hfeed
  have hmem := mem_flatten_of_mem_wordsAfter (List.mem_filter.mp hword).1 '\n' hfeed
  rw [Text.flatten_clusters] at hmem
  exact h hmem

theorem lineFeed_not_mem_capitalise {word : List Char} (h : '\n' ∉ word) :
    '\n' ∉ capitalise word := by
  cases word with
  | nil => exact h
  | cons c rest =>
      obtain ⟨hc, hrest⟩ := not_or.mp (mt List.mem_cons.mpr h)
      rw [capitalise, List.mem_append, not_or]
      exact ⟨Text.lineFeed_not_mem_toUpper fun he => hc he.symm, Text.lineFeed_not_mem_lower hrest⟩

/-- A name on one line is on one line in every style whose joining adds no line feed. -/
theorem lineFeed_not_mem_apply_ofWords {join : List (List Char) → List Char}
    (hjoin : ∀ words : List (List Char), (∀ word ∈ words, '\n' ∉ word) → '\n' ∉ join words)
    {name : String} (h : '\n' ∉ name.toList) : '\n' ∉ ((ofWords join).apply name).toList := by
  unfold ofWords
  rw [String.toList_ofList]
  exact hjoin _ (lineFeed_not_mem_words h)

theorem lineFeed_not_mem_apply_camel {name : String} (h : '\n' ∉ name.toList) :
    '\n' ∉ (camel.apply name).toList := by
  refine lineFeed_not_mem_apply_ofWords (fun words hwords => ?_) h
  rw [List.mem_append, not_or]
  constructor
  · cases words with
    | nil => exact Text.lineFeed_not_mem_lower List.not_mem_nil
    | cons word rest => exact Text.lineFeed_not_mem_lower (hwords word List.mem_cons_self)
  · intro hmem
    obtain ⟨word, hword, hfeed⟩ := List.mem_flatMap.mp hmem
    exact lineFeed_not_mem_capitalise (hwords word (List.mem_of_mem_tail hword)) hfeed

end Casing

end CircuitDiagnosis
