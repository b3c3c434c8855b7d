import OverflowScan.Proofs.Pattern.Locality
import OverflowScan.Proofs.Text.Lines

set_option autoImplicit false

namespace OverflowScan.Text

/-- A text whose last line is ended: it is empty or ends with a line feed. -/
def Ended (text : List Char) : Prop :=
  text = [] ∨ text.getLast? = some '\n'

theorem not_ended_of_plain {line : List Char} (plain : '\n' ∉ line) (nonempty : line ≠ []) :
    ¬ Ended line := by
  rintro (empty | feed)
  · exact nonempty empty
  · exact plain (List.mem_of_getLast? feed)

theorem Ended.of_append_feed {line rest : List Char} (ended : Ended (line ++ '\n' :: rest)) :
    Ended rest := by
  by_cases final : rest = []
  · exact Or.inl final
  · right
    rcases ended with empty | feed
    · simp at empty
    · rwa [List.getLast?_append, List.getLast?_cons_of_ne_nil final,
        Option.or_of_isSome (by simpa using final)] at feed

theorem lines_append {front : List Char} (ended : Ended front) (text : List Char) :
    lines (front ++ text) = lines front ++ lines text := by
  induction front using lines_induction with
  | empty => rfl
  | last line plain nonempty => exact absurd ended (not_ended_of_plain plain nonempty)
  | step line rest plain ih =>
      rw [List.append_assoc, List.cons_append, lines_append_feed line _ plain,
        lines_append_feed line rest plain, ih ended.of_append_feed, List.cons_append]

theorem length_lines {text : List Char} (ended : Ended text) :
    (lines text).length = text.count '\n' := by
  induction text using lines_induction with
  | empty => rfl
  | last line plain nonempty => exact absurd ended (not_ended_of_plain plain nonempty)
  | step line rest plain ih =>
      rw [lines_append_feed line rest plain, List.length_cons, ih ended.of_append_feed,
        List.count_append, List.count_eq_zero_of_not_mem plain, List.count_cons_self, Nat.zero_add]

/-- A word without a line feed does not reach over the end of an ended text. -/
theorem infix_front {front text word : List Char} {start : Nat} (ended : Ended front)
    (plain : '\n' ∉ word) (before : start < front.length)
    (stands : word <+: (front ++ text).drop start) : word <:+: front := by
  have nonempty : front ≠ [] := List.ne_nil_of_length_pos (by omega)
  obtain ⟨init, rfl⟩ : ∃ init, front = init ++ ['\n'] :=
    List.getLast?_eq_some_iff.mp (ended.resolve_left nonempty)
  rw [List.length_append, List.length_singleton] at before
  rw [List.append_assoc, List.singleton_append,
    List.drop_append_of_le_length (Nat.le_of_lt_succ before)] at stands
  have inside := (prefix_before_feed word (init.drop start) text plain stands).isInfix
  exact (inside.trans (List.drop_suffix start init).isInfix).trans
    (List.prefix_append init ['\n']).isInfix

theorem lineNumberAt_append_front (front text : List Char) (offset : Nat) :
    lineNumberAt (front ++ text) (front.length + offset : Nat) =
      lineNumberAt text offset + front.count '\n' := by
  rw [lineNumberAt_natCast, lineNumberAt_natCast, List.take_length_add_append, List.count_append]
  omega

theorem lineNumberAt_append_behind (text more : List Char) (offset : Nat)
    (within : offset ≤ text.length) :
    lineNumberAt (text ++ more) offset = lineNumberAt text offset := by
  rw [lineNumberAt_natCast, lineNumberAt_natCast, List.take_append_of_le_length within]

theorem bodyAt?_natCast (text : List Char) (offset : Nat) :
    bodyAt? text offset =
      if '\x7d' ∈ text.drop offset then some ((text.drop offset).takeWhile (· ≠ '\x7d'))
      else none := rfl

theorem bodyAt?_isSome_iff (text : List Char) (offset : Nat) :
    (bodyAt? text offset).isSome ↔ '\x7d' ∈ text.drop offset := by
  rw [bodyAt?_natCast]
  split <;> simp_all

theorem bodyAt?_eq_some_iff (text body : List Char) (offset : Nat) :
    bodyAt? text offset = some body ↔
      '\x7d' ∉ body ∧ ∃ rest, text.drop offset = body ++ '\x7d' :: rest := by
  have stops (start rest : List Char) (unclosed : '\x7d' ∉ start) :
      (start ++ '\x7d' :: rest).takeWhile (· ≠ '\x7d') = start := by
    rw [List.takeWhile_append_of_pos]
    · simp
    · intro c member
      exact decide_eq_true fun same => unclosed (by rwa [same] at member)
  rw [bodyAt?_natCast, Option.ite_none_right_eq_some]
  constructor
  · rintro ⟨closed, shown⟩
    obtain ⟨start, rest, split, unclosed⟩ := List.eq_append_cons_of_mem closed
    rw [split, stops start rest unclosed, Option.some.injEq] at shown
    subst start
    exact ⟨unclosed, rest, split⟩
  · rintro ⟨unclosed, rest, split⟩
    rw [split, stops body rest unclosed]
    exact ⟨by simp, rfl⟩

theorem bodyAt?_append_front (front text : List Char) (offset : Nat) :
    bodyAt? (front ++ text) (front.length + offset : Nat) = bodyAt? text offset := by
  rw [bodyAt?_natCast, bodyAt?_natCast, List.drop_length_add_append]

theorem bodyAt?_append_behind {text body : List Char} {offset : Nat}
    (found : bodyAt? text offset = some body) (more : List Char) :
    bodyAt? (text ++ more) offset = some body := by
  obtain ⟨unclosed, rest, split⟩ := (bodyAt?_eq_some_iff text body offset).mp found
  have within : offset ≤ text.length := by
    refine Nat.le_of_not_lt fun beyond => ?_
    rw [List.drop_eq_nil_of_le (by omega)] at split
    simp at split
  refine (bodyAt?_eq_some_iff (text ++ more) body offset).mpr ⟨unclosed, rest ++ more, ?_⟩
  rw [List.drop_append_of_le_length within, split, List.append_assoc, List.cons_append]

end OverflowScan.Text
