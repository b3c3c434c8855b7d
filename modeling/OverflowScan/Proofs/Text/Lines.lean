import OverflowScan.Pass.Line
import OverflowScan.Text.Utf8

set_option autoImplicit false

namespace OverflowScan.Text

@[simp] theorem lines_nil : lines [] = [] := rfl

theorem lines_append_feed (line rest : List Char) (plain : '\n' ∉ line) :
    lines (line ++ '\n' :: rest) = line :: lines rest := by
  induction line with
  | nil => simp only [List.nil_append, lines, ↓reduceIte]
  | cons c line ih =>
      have other : c ≠ '\n' := by
        rintro rfl
        exact plain List.mem_cons_self
      have tail : '\n' ∉ line := fun inside => plain (List.mem_cons_of_mem c inside)
      simp only [List.cons_append, lines, other, ↓reduceIte, ih tail]

theorem lines_unterminated (line : List Char) (plain : '\n' ∉ line) (nonempty : line ≠ []) :
    lines line = [line] := by
  induction line with
  | nil => exact absurd rfl nonempty
  | cons c line ih =>
      have other : c ≠ '\n' := by
        rintro rfl
        exact plain List.mem_cons_self
      have tail : '\n' ∉ line := fun inside => plain (List.mem_cons_of_mem c inside)
      by_cases last : line = []
      · subst line
        simp only [lines, other, ↓reduceIte]
      · simp only [lines, other, ↓reduceIte, ih tail last]

/-- Induction from separator to separator: a list has none, or is a part without one, a separator
and a shorter list. -/
theorem separated_induction {α : Type} [DecidableEq α] (separator : α) {motive : List α → Prop}
    (last : ∀ part, separator ∉ part → motive part)
    (step : ∀ part rest, separator ∉ part → motive rest → motive (part ++ separator :: rest))
    (items : List α) : motive items := by
  by_cases cut : separator ∈ items
  · obtain ⟨part, rest, split, plain⟩ := List.eq_append_cons_of_mem cut
    rw [split]
    exact step part rest plain (separated_induction separator last step rest)
  · exact last items cut
termination_by items.length
decreasing_by
  rw [split]
  simp only [List.length_append, List.length_cons]
  omega

theorem lines_induction {motive : List Char → Prop} (empty : motive [])
    (last : ∀ line, '\n' ∉ line → line ≠ [] → motive line)
    (step : ∀ line rest, '\n' ∉ line → motive rest → motive (line ++ '\n' :: rest))
    (text : List Char) : motive text := by
  induction text using separated_induction '\n' with
  | last line plain =>
      by_cases none : line = []
      · rw [none]
        exact empty
      · exact last line plain none
  | step line rest plain ih => exact step line rest plain ih

theorem newline_not_mem_lines (text : List Char) : ∀ line ∈ lines text, '\n' ∉ line := by
  induction text using lines_induction with
  | empty => simp
  | last line plain nonempty =>
      rw [lines_unterminated line plain nonempty]
      simpa using plain
  | step line rest plain ih =>
      rw [lines_append_feed line rest plain]
      intro other member
      rcases List.mem_cons.mp member with same | later
      · rw [same]
        exact plain
      · exact ih other later

@[simp] theorem lines_eq_nil_iff (text : List Char) : lines text = [] ↔ text = [] := by
  induction text using lines_induction with
  | empty => simp
  | last line plain nonempty => simp [lines_unterminated line plain nonempty, nonempty]
  | step line rest plain ih => simp [lines_append_feed line rest plain]

/-- Nothing is lost: the text is its lines with a line feed between neighbours, and one more line
feed where the text ends with one. -/
theorem intercalate_lines (text : List Char) :
    text = ['\n'].intercalate (lines text) ++
      (if text.getLast? = some '\n' then ['\n'] else []) := by
  induction text using lines_induction with
  | empty => rfl
  | last line plain nonempty =>
      have unended : line.getLast? ≠ some '\n' := fun feed => plain (List.mem_of_getLast? feed)
      simp [lines_unterminated line plain nonempty, unended]
  | step line rest plain ih =>
      rw [lines_append_feed line rest plain]
      by_cases final : rest = []
      · subst rest
        simp
      · have more : lines rest ≠ [] := by simpa using final
        have ending : (line ++ '\n' :: rest).getLast? = rest.getLast? := by
          rw [List.getLast?_append, List.getLast?_cons_of_ne_nil final,
            Option.or_of_isSome (by simpa using final)]
        rw [List.intercalate_cons_of_ne_nil more, ending, List.append_assoc, List.append_assoc,
          ← ih]
        rfl

/-- The offset at which a line starts: each line before it takes its characters and a line feed. -/
def lineStart : List (List Char) → Nat → Nat
  | line :: rest, index + 1 => line.length + 1 + lineStart rest index
  | _, _ => 0

@[simp] theorem lineStart_zero (lines : List (List Char)) : lineStart lines 0 = 0 := by
  cases lines <;> rfl

@[simp] theorem lineStart_succ (line : List Char) (lines : List (List Char)) (index : Nat) :
    lineStart (line :: lines) (index + 1) = line.length + 1 + lineStart lines index := rfl

theorem drop_after_feed (line rest : List Char) (count : Nat) :
    (line ++ '\n' :: rest).drop (line.length + 1 + count) = rest.drop count := by
  rw [Nat.add_assoc, Nat.add_comm 1, ← List.drop_drop, List.drop_left, List.drop_succ_cons]

theorem lines_prefix_drop (text : List Char) (index : Nat) (line : List Char)
    (found : (lines text)[index]? = some line) :
    line <+: text.drop (lineStart (lines text) index) := by
  induction text using lines_induction generalizing index with
  | empty => simp at found
  | last whole plain nonempty =>
      rw [lines_unterminated whole plain nonempty] at found ⊢
      obtain ⟨rfl, rfl⟩ : index = 0 ∧ whole = line := by
        simpa [List.getElem?_singleton] using found
      simp
  | step first rest plain ih =>
      rw [lines_append_feed first rest plain] at found ⊢
      cases index with
      | zero =>
          obtain rfl : first = line := by simpa using found
          simp
      | succ index =>
          rw [lineStart_succ, drop_after_feed]
          exact ih index (by simpa using found)

/-- The line of a one-based number holds the offset: it lies inside the line, or on the line feed
that ends it. -/
def LineHolds (text : List Char) (number offset : Nat) : Prop :=
  ∃ line, 1 ≤ number ∧ (lines text)[number - 1]? = some line ∧
    let start := lineStart (lines text) (number - 1)
    (start ≤ offset ∧ offset < start + line.length) ∨
      (offset = start + line.length ∧ text[offset]? = some '\n')

theorem lineHolds_unterminated (line : List Char) (number offset : Nat) (plain : '\n' ∉ line)
    (inside : offset < line.length) : LineHolds line number offset ↔ number = 1 := by
  have nonempty : line ≠ [] := List.ne_nil_of_length_pos (by omega)
  rw [LineHolds, lines_unterminated line plain nonempty]
  constructor
  · rintro ⟨found, positive, lookup, -⟩
    have first : number - 1 < 1 := (List.getElem?_eq_some_iff.mp lookup).1
    omega
  · rintro rfl
    exact ⟨line, Nat.le_refl 1, rfl, Or.inl ⟨Nat.zero_le offset, by simpa using inside⟩⟩

theorem lineHolds_first (line rest : List Char) (offset : Nat) (plain : '\n' ∉ line) :
    LineHolds (line ++ '\n' :: rest) 1 offset ↔ offset ≤ line.length := by
  rw [LineHolds, lines_append_feed line rest plain]
  constructor
  · rintro ⟨found, -, lookup, place⟩
    obtain rfl : line = found := by simpa using lookup
    simp only [Nat.sub_self, lineStart_zero, Nat.zero_add] at place
    omega
  · intro within
    refine ⟨line, Nat.le_refl 1, rfl, ?_⟩
    rcases Nat.lt_or_eq_of_le within with inside | feed
    · exact Or.inl ⟨Nat.zero_le offset, by simpa using inside⟩
    · exact Or.inr ⟨by simpa using feed, by simp [feed]⟩

theorem lineHolds_later (line rest : List Char) (number offset : Nat) (plain : '\n' ∉ line) :
    LineHolds (line ++ '\n' :: rest) (number + 2) (line.length + 1 + offset) ↔
      LineHolds rest (number + 1) offset := by
  have shifted : (line ++ '\n' :: rest)[line.length + 1 + offset]? = rest[offset]? := by
    rw [← List.head?_drop, drop_after_feed, List.head?_drop]
  simp only [LineHolds, lines_append_feed line rest plain, shifted, Nat.add_sub_cancel,
    show number + 2 - 1 = number + 1 by omega, List.getElem?_cons_succ, lineStart_succ]
  constructor
  · rintro ⟨found, -, lookup, ⟨lower, upper⟩ | ⟨ended, feed⟩⟩
    · exact ⟨found, by omega, lookup, Or.inl ⟨by omega, by omega⟩⟩
    · exact ⟨found, by omega, lookup, Or.inr ⟨by omega, feed⟩⟩
  · rintro ⟨found, -, lookup, ⟨lower, upper⟩ | ⟨ended, feed⟩⟩
    · exact ⟨found, by omega, lookup, Or.inl ⟨by omega, by omega⟩⟩
    · exact ⟨found, by omega, lookup, Or.inr ⟨by omega, feed⟩⟩

theorem not_lineHolds_later (line rest : List Char) (number offset : Nat) (plain : '\n' ∉ line)
    (within : offset ≤ line.length) : ¬ LineHolds (line ++ '\n' :: rest) (number + 2) offset := by
  rw [LineHolds, lines_append_feed line rest plain]
  rintro ⟨found, -, -, place⟩
  simp only [show number + 2 - 1 = number + 1 by omega, lineStart_succ] at place
  omega

theorem lineNumberAt_natCast (text : List Char) (offset : Nat) :
    lineNumberAt text offset = (text.take offset).count '\n' + 1 := rfl

theorem lineNumberAt_le (text : List Char) {offset later : Nat} (order : offset ≤ later) :
    lineNumberAt text offset ≤ lineNumberAt text later := by
  rw [lineNumberAt_natCast, lineNumberAt_natCast]
  have fewer := (List.take_prefix_take_left order : text.take offset <+: text.take later)
  have count := fewer.sublist.count_le '\n'
  omega

theorem lineNumberAt_plain (line rest : List Char) (offset : Nat) (plain : '\n' ∉ line)
    (within : offset ≤ line.length) : lineNumberAt (line ++ rest) offset = 1 := by
  have absent : '\n' ∉ line.take offset := fun inside => plain (List.mem_of_mem_take inside)
  rw [lineNumberAt_natCast, List.take_append_of_le_length within,
    List.count_eq_zero_of_not_mem absent]

theorem lineNumberAt_later (line rest : List Char) (offset : Nat) (plain : '\n' ∉ line) :
    lineNumberAt (line ++ '\n' :: rest) (line.length + 1 + offset : Nat) =
      lineNumberAt rest offset + 1 := by
  have split : (line ++ '\n' :: rest).take (line.length + 1 + offset) =
      line ++ '\n' :: rest.take offset := by
    rw [Nat.add_assoc, Nat.add_comm 1, List.take_length_add_append, List.take_succ_cons]
  rw [lineNumberAt_natCast, lineNumberAt_natCast, split, List.count_append,
    List.count_eq_zero_of_not_mem plain, List.count_cons_self, Nat.zero_add]

/-- Counting line feeds and cutting at line feeds name the same line, at every offset. -/
theorem lineNumberAt_eq_iff (text : List Char) (number offset : Nat)
    (inside : offset < text.length) :
    lineNumberAt text offset = number ↔ LineHolds text number offset := by
  induction text using lines_induction generalizing number offset with
  | empty => exact absurd inside (Nat.not_lt_zero offset)
  | last line plain nonempty =>
      have first := lineNumberAt_plain line [] offset plain (Nat.le_of_lt inside)
      rw [List.append_nil] at first
      rw [first, lineHolds_unterminated line number offset plain inside, eq_comm]
  | step line rest plain ih =>
      by_cases within : offset ≤ line.length
      · rw [lineNumberAt_plain line _ offset plain within]
        match number with
        | 0 => simp [LineHolds]
        | 1 => simpa using (lineHolds_first line rest offset plain).mpr within
        | number + 2 =>
            have absent := not_lineHolds_later line rest number offset plain within
            simpa using absent
      · obtain ⟨later, rfl⟩ : ∃ later, offset = line.length + 1 + later :=
          ⟨offset - (line.length + 1), by omega⟩
        rw [lineNumberAt_later line rest later plain]
        have bound : later < rest.length := by
          simp only [List.length_append, List.length_cons] at inside
          omega
        match number with
        | 0 => simp [LineHolds]
        | 1 =>
            rw [lineHolds_first line rest _ plain, lineNumberAt_natCast]
            omega
        | number + 2 =>
            rw [lineHolds_later line rest number later plain, ← ih (number + 1) later bound]
            omega

theorem lineNumberAt_bounds (text : List Char) (offset : Nat) (inside : offset < text.length) :
    1 ≤ lineNumberAt text offset ∧ lineNumberAt text offset ≤ (lines text).length := by
  obtain ⟨line, positive, lookup, -⟩ := (lineNumberAt_eq_iff text _ offset inside).mp rfl
  have bound : lineNumberAt text offset - 1 < (lines text).length :=
    (List.getElem?_eq_some_iff.mp lookup).1
  omega

theorem prefix_before_feed (word line rest : List Char) (plain : '\n' ∉ word)
    (stands : word <+: line ++ '\n' :: rest) : word <+: line := by
  have closed : line ++ ['\n'] <+: line ++ '\n' :: rest := by simp
  rcases List.prefix_or_prefix_of_prefix stands closed with within | beyond
  · rcases List.prefix_concat_iff.mp within with whole | within
    · exact absurd (by rw [whole]; simp) plain
    · exact within
  · exact absurd (beyond.subset (by simp)) plain

/-- A word without a line feed lies in the line whose number its offset has. -/
theorem word_in_line (text word : List Char) (offset : Nat) (plain : '\n' ∉ word)
    (nonempty : word ≠ []) (stands : word <+: text.drop offset) :
    ∃ line, (lines text)[lineNumberAt text offset - 1]? = some line ∧ word <:+: line := by
  induction text using lines_induction generalizing offset with
  | empty => exact absurd (List.prefix_nil.mp (by simpa using stands)) nonempty
  | last line unfed filled =>
      have within : offset ≤ line.length := by
        refine Nat.le_of_lt (Nat.lt_of_not_le fun beyond => nonempty ?_)
        rw [List.drop_eq_nil_of_le beyond] at stands
        exact List.prefix_nil.mp stands
      have first := lineNumberAt_plain line [] offset unfed within
      rw [List.append_nil] at first
      rw [first, lines_unterminated line unfed filled]
      exact ⟨line, rfl, stands.isInfix.trans (List.drop_suffix offset line).isInfix⟩
  | step line rest unfed ih =>
      rw [lines_append_feed line rest unfed]
      -- a word that starts in the first line does not get past its line feed
      by_cases within : offset ≤ line.length
      · rw [lineNumberAt_plain line _ offset unfed within]
        rw [List.drop_append_of_le_length within] at stands
        have inside := prefix_before_feed word (line.drop offset) rest plain stands
        exact ⟨line, rfl, inside.isInfix.trans (List.drop_suffix offset line).isInfix⟩
      · obtain ⟨later, rfl⟩ : ∃ later, offset = line.length + 1 + later :=
          ⟨offset - (line.length + 1), by omega⟩
        rw [drop_after_feed] at stands
        obtain ⟨found, lookup, inside⟩ := ih later stands
        refine ⟨found, ?_, inside⟩
        rw [lineNumberAt_later line rest later unfed, Nat.add_sub_cancel]
        rw [lineNumberAt_natCast] at lookup ⊢
        exact lookup

end OverflowScan.Text

namespace OverflowScan.LinePass

theorem findingsFrom_eq_flatMap (number : Nat) (lines : List (List Char)) :
    findingsFrom number lines =
      (lines.zipIdx number).flatMap fun numbered => lineFindings numbered.2 numbered.1 := by
  induction lines generalizing number with
  | nil => rfl
  | cons line rest ih => simp only [findingsFrom, ih, List.zipIdx_cons, List.flatMap_cons]

end OverflowScan.LinePass

namespace OverflowScan.Text

/-- The lines of a file and the numbers of its offsets agree, for any bytes: the lines hold no line
feed and lose nothing, and the number of an offset is the number of the one line that holds it,
which is also the number under which the line pass reports on that line. -/
theorem line_numbering_agrees (bytes : List UInt8) :
    let text := Utf8.decode bytes
    (∀ line ∈ lines text, '\n' ∉ line) ∧
    (lines text = [] ↔ text = []) ∧
    text = ['\n'].intercalate (lines text) ++
      (if text.getLast? = some '\n' then ['\n'] else []) ∧
    (∀ index line, (lines text)[index]? = some line →
      line <+: text.drop (lineStart (lines text) index)) ∧
    (∀ offset < text.length, ∀ number,
      lineNumberAt text offset = number ↔ LineHolds text number offset) ∧
    (∀ offset < text.length,
      1 ≤ lineNumberAt text offset ∧ lineNumberAt text offset ≤ (lines text).length) ∧
    LinePass.findings text =
      ((lines text).zipIdx 1).flatMap fun numbered =>
        LinePass.lineFindings numbered.2 numbered.1 := by
  intro text
  refine ⟨newline_not_mem_lines text, lines_eq_nil_iff text, intercalate_lines text,
    lines_prefix_drop text, ?_, lineNumberAt_bounds text, ?_⟩
  · intro offset inside number
    exact lineNumberAt_eq_iff text number offset inside
  · exact LinePass.findingsFrom_eq_flatMap 1 (lines text)

end OverflowScan.Text
