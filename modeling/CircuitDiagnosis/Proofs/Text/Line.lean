import CircuitDiagnosis.Text.Line

/-!
# Runs, blanks and lines

The longest run of characters of a class at the start of a text is the only one that is followed by
a character outside of the class (`takeWhile_dropWhile_iff`, `run_append_inj`). A joined text has
characters of its separator and its parts only (`not_mem_intercalate`), and with one more separator
at its end it consists of the parts with a separator behind each (`intercalate_append_self`).

`unlines` puts lines one below the other. It is undone by `splitLines` if no line holds a line feed
(`splitLines_unlines`), and it undoes `splitLines` up to the last line feed (`unlines_splitLines`).
What `trimmedLines` finds in a text of such lines is their content (`contentLines`), which does not
tell a line from the same line with blanks around it. `ConsistsOf` says that a text consists of
lines with a property, which is kept when texts are put together and tells which lines can be found
in the text.
-/

namespace CircuitDiagnosis.Text

universe u

/-! ### Runs -/

theorem takeWhile_dropWhile_iff {α : Type u} {p : α → Bool} {l a b : List α} :
    l.takeWhile p = a ∧ l.dropWhile p = b ↔
      l = a ++ b ∧ (∀ c ∈ a, p c = true) ∧ ∀ c, b.head? = some c → p c = false := by
  constructor
  · rintro ⟨rfl, rfl⟩
    refine ⟨List.takeWhile_append_dropWhile.symm, fun c hc => ?_, fun c hc => ?_⟩
    · exact List.all_eq_true.mp List.all_takeWhile c hc
    · have hstop := List.head?_dropWhile_not p l
      rw [hc] at hstop
      simpa using hstop
  · rintro ⟨rfl, hrun, hstop⟩
    rw [List.takeWhile_append_of_pos hrun, List.dropWhile_append_of_pos hrun]
    cases b with
    | nil => simp
    | cons c rest =>
        have hc : p c = false := hstop c rfl
        rw [List.takeWhile_cons_of_neg (by simp [hc]), List.dropWhile_cons_of_neg (by simp [hc]),
          List.append_nil]
        exact ⟨rfl, rfl⟩

/-- A run and the stop behind it can be told from what they make together. -/
theorem run_append_inj {α : Type u} {p : α → Bool} {x : α} (hstop : p x = false)
    {a a' b b' : List α} (ha : ∀ c ∈ a, p c = true) (ha' : ∀ c ∈ a', p c = true)
    (h : a ++ x :: b = a' ++ x :: b') : a = a' ∧ b = b' := by
  have hhead : ∀ rest : List α, ∀ c, (x :: rest).head? = some c → p c = false := by
    rintro rest c ⟨⟩
    exact hstop
  obtain ⟨hrun, hrest⟩ := takeWhile_dropWhile_iff.mpr ⟨rfl, ha, hhead b⟩
  rw [h] at hrun hrest
  obtain ⟨hrun', hrest'⟩ := takeWhile_dropWhile_iff.mpr ⟨rfl, ha', hhead b'⟩
  exact ⟨hrun.symm.trans hrun', (List.cons.inj (hrest.symm.trans hrest')).2⟩

/-! ### Joined texts -/

theorem intercalate_ne_nil {α : Type u} {m : List α} (hm : m ≠ []) (sep : List α)
    (l : List (List α)) : sep.intercalate (m :: l) ≠ [] := by
  cases l with
  | nil =>
      rw [List.intercalate_singleton]
      exact hm
  | cons n l =>
      rw [List.intercalate_cons_cons, List.append_assoc]
      exact List.append_ne_nil_of_left_ne_nil hm _

/-- With a separator behind the last part too, each part has its own. -/
theorem intercalate_append_self {α : Type u} (sep m : List α) (l : List (List α)) :
    sep.intercalate (m :: l) ++ sep = (m :: l).flatMap (· ++ sep) := by
  induction l generalizing m with
  | nil => rw [List.intercalate_singleton, List.flatMap_singleton]
  | cons n l ih =>
      rw [List.intercalate_cons_cons, List.append_assoc, ih n]
      rfl

theorem not_mem_intercalate {α : Type u} {a : α} {sep : List α} {l : List (List α)}
    (hsep : a ∉ sep) (hl : ∀ m ∈ l, a ∉ m) : a ∉ sep.intercalate l := by
  induction l with
  | nil => exact List.not_mem_nil
  | cons m rest ih =>
      obtain ⟨hm, hrest⟩ := List.forall_mem_cons.mp hl
      cases rest with
      | nil =>
          rw [List.intercalate_singleton]
          exact hm
      | cons n rest =>
          rw [List.intercalate_cons_cons, List.mem_append, List.mem_append, not_or, not_or]
          exact ⟨⟨hm, hsep⟩, ih hrest⟩

/-! ### Lines -/

theorem isBlank_lineFeed : isBlank '\n' = true := by decide

/-- The text of some lines, each ended by a line feed. -/
def unlines (lines : List (List Char)) : List Char := lines.flatMap (· ++ ['\n'])

@[simp] theorem unlines_nil : unlines [] = [] := rfl

@[simp] theorem unlines_cons (line : List Char) (rest : List (List Char)) :
    unlines (line :: rest) = line ++ '\n' :: unlines rest := by
  simp [unlines]

theorem unlines_append (l m : List (List Char)) : unlines (l ++ m) = unlines l ++ unlines m :=
  List.flatMap_append

theorem splitLines_cons (c : Char) (cs : List Char) :
    splitLines (c :: cs) =
      if c = '\n' then [] :: splitLines cs
      else (c :: (splitLines cs).headD []) :: (splitLines cs).tail := rfl

theorem splitLines_ne_nil (cs : List Char) : splitLines cs ≠ [] := by
  cases cs with
  | nil => exact List.cons_ne_nil _ _
  | cons c cs =>
      rw [splitLines_cons]
      split <;> exact List.cons_ne_nil _ _

theorem splitLines_cons_lineFeed (cs : List Char) :
    splitLines ('\n' :: cs) = [] :: splitLines cs := rfl

theorem splitLines_line {line : List Char} (h : '\n' ∉ line) (cs : List Char) :
    splitLines (line ++ '\n' :: cs) = line :: splitLines cs := by
  induction line with
  | nil => exact splitLines_cons_lineFeed cs
  | cons c rest ih =>
      obtain ⟨hc, hrest⟩ := not_or.mp (mt List.mem_cons.mpr h)
      rw [List.cons_append, splitLines, List.foldr_cons, ← splitLines, ih hrest,
        if_neg fun he => hc he.symm]
      rfl

/-- Lines without line feeds are found again; the last line feed is followed by an empty line. -/
theorem splitLines_unlines {lines : List (List Char)} (h : ∀ line ∈ lines, '\n' ∉ line) :
    splitLines (unlines lines) = lines ++ [[]] := by
  induction lines with
  | nil => rfl
  | cons line rest ih =>
      obtain ⟨hline, hrest⟩ := List.forall_mem_cons.mp h
      rw [unlines_cons, splitLines_line hline, ih hrest, List.cons_append]

/-- A text is made of its lines, up to a line feed at its end. -/
theorem unlines_splitLines (cs : List Char) : unlines (splitLines cs) = cs ++ ['\n'] := by
  induction cs with
  | nil => rfl
  | cons c cs ih =>
      rw [splitLines_cons]
      split
      · next hc =>
        rw [unlines_cons, ih, hc]
        rfl
      · obtain ⟨line, rest, hlines⟩ := List.exists_cons_of_ne_nil (splitLines_ne_nil cs)
        rw [hlines, unlines_cons] at ih
        simp only [hlines, unlines_cons, List.headD_cons, List.tail_cons, List.cons_append, ih]

theorem lineFeed_not_mem_of_mem_splitLines {cs line : List Char} (h : line ∈ splitLines cs) :
    '\n' ∉ line := by
  induction cs generalizing line with
  | nil =>
      rw [List.mem_singleton.mp h]
      exact List.not_mem_nil
  | cons c cs ih =>
      rw [splitLines_cons] at h
      split at h
      · rcases List.mem_cons.mp h with rfl | h
        · exact List.not_mem_nil
        · exact ih h
      · next hc =>
        obtain ⟨first, rest, hlines⟩ := List.exists_cons_of_ne_nil (splitLines_ne_nil cs)
        rw [hlines] at h ih
        rcases List.mem_cons.mp h with rfl | h
        · exact List.not_mem_cons_of_ne_of_not_mem (Ne.symm hc) (ih List.mem_cons_self)
        · exact ih (List.mem_cons_of_mem first h)

/-- The text consists of lines with a property, each ended by a line feed. -/
def ConsistsOf (P : List Char → Prop) (cs : List Char) : Prop :=
  ∃ lines, cs = unlines lines ∧ ∀ line ∈ lines, '\n' ∉ line ∧ P line

section ConsistsOf

variable {P : List Char → Prop} {cs ds line : List Char}

theorem consistsOf_nil (P : List Char → Prop) : ConsistsOf P [] :=
  ⟨[], rfl, fun _ h => (by cases h)⟩

theorem consistsOf_line (hfeed : '\n' ∉ line) (h : P line) : ConsistsOf P (line ++ ['\n']) :=
  ⟨[line], (unlines_cons line []).symm, List.forall_mem_singleton.mpr ⟨hfeed, h⟩⟩

theorem ConsistsOf.append (hc : ConsistsOf P cs) (hd : ConsistsOf P ds) :
    ConsistsOf P (cs ++ ds) := by
  obtain ⟨l, rfl, hl⟩ := hc
  obtain ⟨m, rfl, hm⟩ := hd
  exact ⟨l ++ m, (unlines_append l m).symm, List.forall_mem_append.mpr ⟨hl, hm⟩⟩

theorem ConsistsOf.flatMap {α : Type u} {f : α → List Char} {l : List α}
    (h : ∀ a ∈ l, ConsistsOf P (f a)) : ConsistsOf P (l.flatMap f) := by
  induction l with
  | nil => exact consistsOf_nil P
  | cons a rest ih =>
      obtain ⟨ha, hrest⟩ := List.forall_mem_cons.mp h
      exact ha.append (ih hrest)

/-- The lines of the text have the property, except for the empty one behind the last line feed. -/
theorem ConsistsOf.of_mem_splitLines (h : ConsistsOf P cs) (hline : line ∈ splitLines cs)
    (hne : line ≠ []) : P line := by
  obtain ⟨lines, rfl, hlines⟩ := h
  rw [splitLines_unlines fun l hl => (hlines l hl).1] at hline
  rcases List.mem_append.mp hline with hline | hline
  · exact (hlines line hline).2
  · exact absurd (List.mem_singleton.mp hline) hne

/-- A line between others is one of the lines of the text. -/
theorem mem_splitLines_between (hc : ConsistsOf P cs) (hd : ConsistsOf P ds)
    (hfeed : '\n' ∉ line) : line ∈ splitLines (cs ++ (line ++ ['\n']) ++ ds) := by
  obtain ⟨l, rfl, hl⟩ := hc
  obtain ⟨m, rfl, hm⟩ := hd
  have hlines : ∀ k ∈ l ++ line :: m, '\n' ∉ k := by
    refine List.forall_mem_append.mpr ⟨fun k hk => (hl k hk).1, ?_⟩
    exact List.forall_mem_cons.mpr ⟨hfeed, fun k hk => (hm k hk).1⟩
  have htext : unlines l ++ (line ++ ['\n']) ++ unlines m = unlines (l ++ line :: m) := by
    rw [unlines_append, unlines_cons]
    simp only [List.append_assoc, List.cons_append, List.nil_append]
  rw [htext, splitLines_unlines hlines]
  exact List.mem_append_left _ (List.mem_append_right l List.mem_cons_self)

end ConsistsOf

theorem trim_eq_self {cs : List Char} (h : ∀ c ∈ cs, isBlank c = false) : trim cs = cs := by
  have hdrop : ∀ l : List Char, (∀ c ∈ l, isBlank c = false) → l.dropWhile isBlank = l := by
    intro l hl
    cases l with
    | nil => rfl
    | cons c rest =>
        exact List.dropWhile_cons_of_neg (by simp [hl c List.mem_cons_self])
  unfold trim
  rw [hdrop cs h, hdrop cs.reverse fun c hc => h c (List.mem_reverse.mp hc), List.reverse_reverse]

/-- What lines hold: the blanks at their ends are trimmed off, and lines of blanks are left out. -/
def contentLines (lines : List (List Char)) : List (List Char) :=
  (lines.map trim).filter fun line => !line.isEmpty

theorem contentLines_append (l m : List (List Char)) :
    contentLines (l ++ m) = contentLines l ++ contentLines m := by
  unfold contentLines
  rw [List.map_append, List.filter_append]

theorem contentLines_cons_of_trim_eq_nil {line : List Char} (h : trim line = [])
    (rest : List (List Char)) : contentLines (line :: rest) = contentLines rest := by
  unfold contentLines
  rw [List.map_cons, h, List.filter_cons_of_neg (by decide)]

/-- Nothing is lost of lines of other characters than blanks. -/
theorem contentLines_eq_self {lines : List (List Char)}
    (h : ∀ line ∈ lines, line ≠ [] ∧ ∀ c ∈ line, isBlank c = false) :
    contentLines lines = lines := by
  have htrim : lines.map trim = lines :=
    (List.map_congr_left fun line hline => trim_eq_self (h line hline).2).trans (List.map_id lines)
  unfold contentLines
  rw [htrim]
  refine List.filter_eq_self.mpr fun line hline => ?_
  rw [Bool.not_eq_true', List.isEmpty_eq_false_iff]
  exact (h line hline).1

/-- The trimmed lines of a text are what its lines hold. -/
theorem trimmedLines_unlines {lines : List (List Char)} (h : ∀ line ∈ lines, '\n' ∉ line) :
    trimmedLines (unlines lines) = contentLines lines := by
  calc trimmedLines (unlines lines)
      = contentLines (splitLines (unlines lines)) := rfl
    _ = contentLines lines ++ contentLines [[]] := by
        rw [splitLines_unlines h, contentLines_append]
    _ = contentLines lines := List.append_nil (contentLines lines)

end CircuitDiagnosis.Text
