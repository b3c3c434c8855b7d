import Mathlib.Data.Nat.SuccPred
import Mathlib.Order.SuccPred.Archimedean
import OverflowScan.Proofs.Catalog.Heads
import OverflowScan.Proofs.Pass.Headings
import OverflowScan.Proofs.Pattern.Greedy
import OverflowScan.Proofs.Pattern.Sweep

set_option autoImplicit false

namespace OverflowScan

theorem Text.run_iff_le_passOver {p : Char → Bool} {text : List Char} {start stop : Nat} :
    Run p text start stop ↔ start ≤ stop ∧ stop ≤ passOver p text start := by
  have longest := run_passOver p text start
  constructor
  · intro run
    have bound := run.outside (passOver_ended p text start)
    have order := longest.1
    exact ⟨run.1, by omega⟩
  · intro ⟨order, bound⟩
    exact ⟨order, fun index lower upper => longest.2 index lower (by omega)⟩

theorem Text.exists_first?_iff {c : Char} {text : List Char} {start : Nat} :
    (∃ last, first? c text start = some last) ↔
      ∃ close, start ≤ close ∧ text[close]? = some c := by
  simp only [first?_eq_some_iff]
  constructor
  · intro ⟨last, run, closed⟩
    exact ⟨last, run.1, closed⟩
  · intro ⟨close, after, closed⟩
    have later : c ∈ text.drop start := by
      apply List.mem_of_getElem? (i := close - start)
      rw [List.getElem?_drop, Nat.add_sub_cancel' after]
      exact closed
    obtain ⟨index, rest, split, absent⟩ := List.eq_append_cons_of_mem later
    refine ⟨start + index.length, ?_, ?_⟩
    · exact Run.of_drop_eq split (CharClass.forall_holds_butNot_iff.mpr absent)
    · exact (of_drop_eq_cons (drop_add_length split)).1

namespace Catalog

open Pattern

variable {text : List Char} {start brace bracket : Nat}
  {outcome : Nat × List (Nat × List Char)}

/-- Where the body behind an opening brace ends: at the first closing brace, or with the text. -/
def bodyEnd (text : List Char) (brace : Nat) : Nat :=
  Text.passOver (CharClass.butNot '\x7d').holds text (brace + 1)

/-- An opening bracket in the body behind a brace, with a closing bracket somewhere after it, in the
body or not. -/
structure Closable (text : List Char) (brace bracket : Nat) : Prop where
  behind : brace < bracket
  inside : bracket < bodyEnd text brace
  opened : text[bracket]? = some '['
  closed : ∃ close, bracket < close ∧ text[close]? = some ']'

def BraceOf (text : List Char) (start brace : Nat) : Prop :=
  ∃ paren first second close, LoopHead text start paren first second close brace

def untilClosed : Pattern := .seq (.many (.butNot ']')) (.exactly [']'])

theorem head?_outcomes_untilClosed :
    (untilClosed.outcomes text start).head? = some outcome ↔
      ∃ last, Text.first? ']' text start = some last ∧ outcome = (last + 1, []) := by
  simp only [Text.first?_eq_some_iff]
  constructor
  · intro found
    obtain ⟨last, run, atLast, -⟩ := head?_outcomes_seq_many.mp found
    obtain ⟨closed, rfl⟩ := head?_outcomes_character.mp atLast
    exact ⟨last, ⟨run, closed⟩, rfl⟩
  · rintro ⟨last, ⟨run, closed⟩, rfl⟩
    apply head?_outcomes_seq_many_of_ended run
    · rw [closed]
      decide
    · exact head?_outcomes_character.mpr ⟨closed, rfl⟩

theorem closable_iff :
    Closable text brace bracket ↔
      Text.Run (CharClass.butNot '\x7d').holds text (brace + 1) bracket ∧
        (Pattern.seq (.exactly ['[']) untilClosed).outcomes text bracket ≠ [] := by
  have tried : (Pattern.seq (.exactly ['[']) untilClosed).outcomes text bracket ≠ [] ↔
      text[bracket]? = some '[' ∧ ∃ close, bracket < close ∧ text[close]? = some ']' := by
    have closed : (∃ close, bracket < close ∧ text[close]? = some ']') ↔
        ∃ last, Text.first? ']' text (bracket + 1) = some last := Text.exists_first?_iff.symm
    rw [closed, ← List.isSome_head?, Option.isSome_iff_exists]
    simp only [head?_outcomes_seq_character, head?_outcomes_untilClosed]
    constructor
    · intro ⟨_, opened, last, first, _⟩
      exact ⟨opened, last, first⟩
    · intro ⟨opened, last, first⟩
      exact ⟨_, opened, last, first, rfl⟩
  rw [tried, Text.run_iff_le_passOver]
  constructor
  · intro closable
    exact ⟨⟨closable.behind, Nat.le_of_lt closable.inside⟩, closable.opened, closable.closed⟩
  · intro ⟨⟨behind, bound⟩, opened, closed⟩
    have apart : bracket ≠ bodyEnd text brace := by
      rintro rfl
      apply Text.passOver_ended (CharClass.butNot '\x7d').holds text (brace + 1)
      rw [← bodyEnd, opened]
      decide
    exact ⟨behind, Nat.lt_of_le_of_ne bound apart, opened, closed⟩

/-- The body is cut back to its last closable bracket. -/
theorem head?_outcomes_body :
    ((Pattern.seq (.many (.butNot '\x7d')) (.seq (.exactly ['[']) untilClosed)).outcomes text
      (brace + 1)).head? = some outcome ↔
      ∃ bracket last, IsGreatest {bracket | Closable text brace bracket} bracket ∧
        Text.first? ']' text (bracket + 1) = some last ∧ outcome = (last + 1, []) := by
  rw [head?_outcomes_seq_many]
  constructor
  · intro ⟨bracket, run, first, given⟩
    obtain ⟨opened, atIndex⟩ := head?_outcomes_seq_character.mp first
    obtain ⟨last, closed, same⟩ := head?_outcomes_untilClosed.mp atIndex
    refine ⟨bracket, last, ⟨?_, ?_⟩, closed, same⟩
    · refine closable_iff.mpr ⟨run, ?_⟩
      exact List.isSome_head?.mp (Option.isSome_of_eq_some first)
    · intro other closable
      obtain ⟨longer, matched⟩ := closable_iff.mp closable
      apply Nat.le_of_not_lt
      intro later
      exact matched (given other later longer)
  · intro ⟨bracket, last, ⟨closable, greatest⟩, closed, same⟩
    refine ⟨bracket, (closable_iff.mp closable).1, ?_, ?_⟩
    · apply head?_outcomes_seq_character.mpr
      exact ⟨closable.opened, head?_outcomes_untilClosed.mpr ⟨last, closed, same⟩⟩
    · intro other later longer
      apply Decidable.byContradiction
      intro matched
      have bound := greatest (closable_iff.mpr ⟨longer, matched⟩)
      omega

/-- The first outcome is the head of a loop, which stands in one way, and the longest body. -/
theorem head?_outcomes_loopWithAccess :
    (loopWithAccess.pattern.outcomes text start).head? = some outcome ↔
      ∃ brace bracket last, BraceOf text start brace ∧
        IsGreatest {bracket | Closable text brace bracket} bracket ∧
        Text.first? ']' text (bracket + 1) = some last ∧ outcome = (last + 1, []) := by
  constructor
  · intro found
    obtain ⟨keyword, atBlank⟩ := head?_outcomes_seq_exactly.mp found
    obtain ⟨paren, blank, atParen, -⟩ := head?_outcomes_seq_many.mp atBlank
    obtain ⟨opened, atInitial⟩ := head?_outcomes_seq_character.mp atParen
    obtain ⟨first, initial, atFirst, -⟩ := head?_outcomes_seq_many.mp atInitial
    obtain ⟨parted, atCondition⟩ := head?_outcomes_seq_character.mp atFirst
    obtain ⟨second, condition, atSecond, -⟩ := head?_outcomes_seq_many.mp atCondition
    obtain ⟨partedAgain, atUpdate⟩ := head?_outcomes_seq_character.mp atSecond
    obtain ⟨close, update, atClose, -⟩ := head?_outcomes_seq_many.mp atUpdate
    obtain ⟨closed, atAfter⟩ := head?_outcomes_seq_character.mp atClose
    obtain ⟨brace, after, atBrace, -⟩ := head?_outcomes_seq_many.mp atAfter
    obtain ⟨braced, atBody⟩ := head?_outcomes_seq_character.mp atBrace
    obtain ⟨bracket, last, body⟩ := head?_outcomes_body.mp atBody
    exact ⟨brace, bracket, last, ⟨paren, first, second, close, keyword, blank, opened, initial,
      parted, condition, partedAgain, update, closed, after, braced⟩, body⟩
  · intro ⟨brace, bracket, last, ⟨paren, first, second, close, head⟩, body⟩
    -- Each run of the head stops at a character that it cannot hold, so none of them is cut back.
    have parenEnds : ¬ text[paren]?.any Text.isBlank := by rw [head.opened]; decide
    have firstEnds : ¬ text[first]?.any (CharClass.butNot ';').holds := by rw [head.parted]; decide
    have secondEnds : ¬ text[second]?.any (CharClass.butNot ';').holds := by
      rw [head.partedAgain]; decide
    have closeEnds : ¬ text[close]?.any (CharClass.butNot ')').holds := by rw [head.closed]; decide
    have braceEnds : ¬ text[brace]?.any Text.isBlank := by rw [head.braced]; decide
    refine head?_outcomes_seq_exactly.mpr ⟨head.keyword, ?_⟩
    refine head?_outcomes_seq_many_of_ended head.blank parenEnds ?_
    refine head?_outcomes_seq_character.mpr ⟨head.opened, ?_⟩
    refine head?_outcomes_seq_many_of_ended head.initial firstEnds ?_
    refine head?_outcomes_seq_character.mpr ⟨head.parted, ?_⟩
    refine head?_outcomes_seq_many_of_ended head.condition secondEnds ?_
    refine head?_outcomes_seq_character.mpr ⟨head.partedAgain, ?_⟩
    refine head?_outcomes_seq_many_of_ended head.update closeEnds ?_
    refine head?_outcomes_seq_character.mpr ⟨head.closed, ?_⟩
    refine head?_outcomes_seq_many_of_ended head.after braceEnds ?_
    refine head?_outcomes_seq_character.mpr ⟨head.braced, ?_⟩
    exact head?_outcomes_body.mpr ⟨bracket, last, body⟩

theorem exists_isGreatest_closable (closable : Closable text brace bracket) :
    ∃ last, IsGreatest {bracket | Closable text brace bracket} last := by
  apply BddAbove.exists_isGreatest_of_nonempty
  · exact ⟨bodyEnd text brace, fun _ closable => Nat.le_of_lt closable.inside⟩
  · exact ⟨bracket, closable⟩

end Catalog

namespace LinePass

open Catalog

def loopAt? (line : List Char) (start : Nat) : Option Match :=
  loopWithAccess.pattern.matchAt? (Cursor.place line start)

theorem loopAt?_eq_some_iff {line : List Char} {start : Nat} {found : Match} :
    loopAt? line start = some found ↔
      ∃ brace bracket last, BraceOf line start brace ∧
        IsGreatest {bracket | Closable line brace bracket} bracket ∧
        Text.first? ']' line (bracket + 1) = some last ∧
        found = ⟨start, last + 1, Text.slice line start (last + 1), []⟩ := by
  rw [loopAt?, Pattern.matchAt?_place, Option.map_eq_some_iff]
  simp only [head?_outcomes_loopWithAccess]
  constructor
  · rintro ⟨_, ⟨brace, bracket, last, head, greatest, closed, rfl⟩, rfl⟩
    exact ⟨brace, bracket, last, head, greatest, closed, rfl⟩
  · rintro ⟨brace, bracket, last, head, greatest, closed, rfl⟩
    exact ⟨_, ⟨brace, bracket, last, head, greatest, closed, rfl⟩, rfl⟩

example : (loopAt? "for(;;)\x7ba[0];b[\x7d]c[1]".toList 0).map Match.stop = some 17 := by decide

/-- A line has a loop with an access exactly where a loop head stands with a closable bracket in the
body behind it. The loop ends right after the first closing bracket behind the last closable one,
and the loops of the line that are reported are taken from left to right, each from the end of the
one before on. -/
theorem loop_ends_at_last_bracket (number : Int) (line : List Char) :
    (∀ start, (loopAt? line start).isSome ↔
      ∃ brace bracket, BraceOf line start brace ∧ Closable line brace bracket) ∧
    (∀ start found, loopAt? line start = some found ↔
      ∃ brace bracket last, BraceOf line start brace ∧
        IsGreatest {bracket | Closable line brace bracket} bracket ∧
        Text.first? ']' line (bracket + 1) = some last ∧
        found = ⟨start, last + 1, Text.slice line start (last + 1), []⟩) ∧
    ∃ loops, (∀ swept, Sweep (loopAt? line) Match.stop 0 swept ↔ swept = loops) ∧
      (lineFindings number line).filter loopWithAccess.reports =
        loops.map (entryFinding number line loopWithAccess) := by
  refine ⟨?_, fun _ _ => loopAt?_eq_some_iff, ?_⟩
  · intro start
    rw [Option.isSome_iff_exists]
    simp only [loopAt?_eq_some_iff]
    constructor
    · intro ⟨found, brace, bracket, last, head, greatest, _⟩
      exact ⟨brace, bracket, head, greatest.1⟩
    · intro ⟨brace, bracket, head, closable⟩
      obtain ⟨bracket, greatest⟩ := exists_isGreatest_closable closable
      obtain ⟨last, closed⟩ := Text.exists_first?_iff.mpr greatest.1.closed
      exact ⟨_, brace, bracket, last, head, greatest, closed, rfl⟩
  · refine ⟨loopWithAccess.pattern.findAll line, fun swept => ?_, ?_⟩
    · have seen (start : Nat) : loopAt? line start =
          (loopWithAccess.pattern.matchAt? (Cursor.place line start)).map id := by simp [loopAt?]
      rw [Pattern.sweep_findAll_iff (by decide) seen fun _ => rfl, List.map_id]
    · exact filter_lineFindings (by simp [lineEntries]) number line

end LinePass

end OverflowScan
