import OverflowScan.Proofs.Catalog.Apart
import OverflowScan.Proofs.Pattern.Extension

set_option autoImplicit false

namespace OverflowScan

theorem Text.Run.le_of_butNot {c : Char} {text : List Char} {start stop index : Nat}
    (run : Run (CharClass.butNot c).holds text start stop) (found : text[index]? = some c)
    (after : start ≤ index) : stop ≤ index := by
  have other : ¬ text[index]?.any (CharClass.butNot c).holds := by
    rw [found]
    simp [CharClass.holds]
  have := run.outside other
  omega

theorem Text.Run.unique_of_butNot {c : Char} {text : List Char} {start stop other : Nat}
    (run : Run (CharClass.butNot c).holds text start stop) (ended : text[stop]? = some c)
    (again : Run (CharClass.butNot c).holds text start other) (closed : text[other]? = some c) :
    stop = other :=
  Nat.le_antisymm (run.le_of_butNot closed again.1) (again.le_of_butNot ended run.1)

namespace Catalog

open Pattern

variable {text : List Char} {start stop : Nat} {groups : List (Nat × List Char)}

/-- The pieces of a loop head and where they end. -/
structure LoopHead (text : List Char) (start paren first second close brace : Nat) : Prop where
  keyword : "for".toList <+: text.drop start
  blank : Text.Run Text.isBlank text (start + 3) paren
  opened : text[paren]? = some '('
  initial : Text.Run (CharClass.butNot ';').holds text (paren + 1) first
  parted : text[first]? = some ';'
  condition : Text.Run (CharClass.butNot ';').holds text (first + 1) second
  partedAgain : text[second]? = some ';'
  update : Text.Run (CharClass.butNot ')').holds text (second + 1) close
  closed : text[close]? = some ')'
  after : Text.Run Text.isBlank text (close + 1) brace
  braced : text[brace]? = some '\x7b'

theorem mem_outcomes_loop :
    (stop, groups) ∈ loop.outcomes text start ↔
      ∃ paren first second close brace last,
        LoopHead text start paren first second close brace ∧
          Text.Run (CharClass.butNot '\x7d').holds text (brace + 1) last ∧
          text[last]? = some '\x7d' ∧ stop = last + 1 ∧
          groups = [(4, Text.slice text (brace + 1) last), (3, Text.slice text (second + 1) close),
            (2, Text.slice text (first + 1) second), (1, Text.slice text (paren + 1) first)] := by
  constructor
  · intro found
    obtain ⟨keyword, atBlank⟩ := mem_outcomes_seq_exactly.mp found
    obtain ⟨paren, blank, atParen⟩ := mem_outcomes_seq_many.mp atBlank
    obtain ⟨opened, atInitial⟩ := mem_outcomes_seq_character.mp atParen
    obtain ⟨first, _, initial, atFirst, rfl⟩ := (mem_outcomes_seq_group rfl).mp atInitial
    obtain ⟨parted, atCondition⟩ := mem_outcomes_seq_character.mp atFirst
    obtain ⟨second, _, condition, atSecond, rfl⟩ := (mem_outcomes_seq_group rfl).mp atCondition
    obtain ⟨partedAgain, atUpdate⟩ := mem_outcomes_seq_character.mp atSecond
    obtain ⟨close, _, update, atClose, rfl⟩ := (mem_outcomes_seq_group rfl).mp atUpdate
    obtain ⟨closed, atAfter⟩ := mem_outcomes_seq_character.mp atClose
    obtain ⟨brace, after, atBrace⟩ := mem_outcomes_seq_many.mp atAfter
    obtain ⟨braced, atBody⟩ := mem_outcomes_seq_character.mp atBrace
    obtain ⟨last, _, body, atLast, rfl⟩ := (mem_outcomes_seq_group rfl).mp atBody
    obtain ⟨rfl, ended, rfl⟩ := mem_outcomes_character.mp atLast
    exact ⟨paren, first, second, close, brace, last,
      ⟨keyword, blank, opened, initial, parted, condition, partedAgain, update, closed, after,
        braced⟩, body, ended, rfl, rfl⟩
  · rintro ⟨paren, first, second, close, brace, last, head, body, ended, rfl, rfl⟩
    refine mem_outcomes_seq_exactly.mpr ⟨head.keyword, ?_⟩
    refine mem_outcomes_seq_many.mpr ⟨paren, head.blank, ?_⟩
    refine mem_outcomes_seq_character.mpr ⟨head.opened, ?_⟩
    refine (mem_outcomes_seq_group rfl).mpr ⟨first, [(4, _), (3, _), (2, _)], head.initial, ?_, rfl⟩
    refine mem_outcomes_seq_character.mpr ⟨head.parted, ?_⟩
    refine (mem_outcomes_seq_group rfl).mpr ⟨second, [(4, _), (3, _)], head.condition, ?_, rfl⟩
    refine mem_outcomes_seq_character.mpr ⟨head.partedAgain, ?_⟩
    refine (mem_outcomes_seq_group rfl).mpr ⟨close, [(4, _)], head.update, ?_, rfl⟩
    refine mem_outcomes_seq_character.mpr ⟨head.closed, ?_⟩
    refine mem_outcomes_seq_many.mpr ⟨brace, head.after, ?_⟩
    refine mem_outcomes_seq_character.mpr ⟨head.braced, ?_⟩
    refine (mem_outcomes_seq_group rfl).mpr ⟨last, [], body, ?_, rfl⟩
    exact mem_outcomes_character.mpr ⟨rfl, ended, rfl⟩

/-- Blanks between a parenthesis and a brace. What closes a later parenthesis is not passed by
blanks, so a later pair does not end earlier. -/
theorem brace_le_of_close_le {close brace close' brace' : Nat}
    (after : Text.Run Text.isBlank text (close + 1) brace) (braced : text[brace]? = some '\x7b')
    (closed' : text[close']? = some ')') (after' : Text.Run Text.isBlank text (close' + 1) brace')
    (braced' : text[brace']? = some '\x7b') (order : close ≤ close') : brace ≤ brace' := by
  have solid : ¬ text[close']?.any Text.isBlank := by
    rw [closed']
    decide
  have beside := after'.1
  rcases after.outside solid with before | beyond
  · obtain rfl : close = close' := by omega
    refine Nat.le_of_eq (after.unique after' ?_ ?_)
    · rw [braced]
      decide
    · rw [braced']
      decide
  · omega

namespace LoopHead

variable {paren first second close brace : Nat} {start' paren' first' second' close' brace' : Nat}

theorem unique (head : LoopHead text start paren first second close brace)
    (again : LoopHead text start paren' first' second' close' brace') :
    paren = paren' ∧ first = first' ∧ second = second' ∧ close = close' ∧ brace = brace' := by
  obtain rfl : paren = paren' :=
    head.blank.unique again.blank (by rw [head.opened]; decide) (by rw [again.opened]; decide)
  obtain rfl := head.initial.unique_of_butNot head.parted again.initial again.parted
  obtain rfl := head.condition.unique_of_butNot head.partedAgain again.condition again.partedAgain
  obtain rfl := head.update.unique_of_butNot head.closed again.update again.closed
  have same : brace = brace' :=
    head.after.unique again.after (by rw [head.braced]; decide) (by rw [again.braced]; decide)
  exact ⟨rfl, rfl, rfl, rfl, same⟩

theorem paren_lt (head : LoopHead text start paren first second close brace) {index : Nat}
    (semicolon : text[index]? = some ';') (after : start ≤ index) : paren < index := by
  have keyword : Text.Run (CharClass.butNot ';').holds text start (start + 3) :=
    Text.Run.of_prefix head.keyword (by decide)
  have beyond := keyword.le_of_butNot semicolon after
  have solid : ¬ text[index]?.any Text.isBlank := by
    rw [semicolon]
    decide
  have blank := head.blank.outside solid
  have other : index ≠ paren := by
    rintro rfl
    exact absurd (semicolon.symm.trans head.opened) (by decide)
  omega

/-- A later loop head does not end earlier. -/
theorem brace_le (head : LoopHead text start paren first second close brace)
    (later : LoopHead text start' paren' first' second' close' brace') (order : start < start') :
    brace ≤ brace' := by
  have blank := later.blank.1
  have initial := later.initial.1
  have condition := later.condition.1
  have update := later.update.1
  have behind := head.paren_lt later.parted (by omega)
  have firstOrder := head.initial.le_of_butNot later.parted behind
  have secondOrder := head.condition.le_of_butNot later.partedAgain (by omega)
  have closeOrder := head.update.le_of_butNot later.closed (by omega)
  exact brace_le_of_close_le head.after head.braced later.closed later.after later.braced closeOrder

/-- A loop head and an array access behind it, before any closing brace, are a loop with an
access. -/
theorem spells_loopWithAccess (head : LoopHead text start paren first second close brace)
    {bracket last : Nat} (body : Text.Run (CharClass.butNot '\x7d').holds text (brace + 1) bracket)
    (opened : text[bracket]? = some '[')
    (index : Text.Run (CharClass.butNot ']').holds text (bracket + 1) last)
    (ended : text[last]? = some ']') :
    loopWithAccess.pattern.Spells text start (last + 1) :=
  ⟨start + 3, ⟨rfl, head.keyword⟩, paren, head.blank,
    paren + 1, spells_character.mpr ⟨rfl, head.opened⟩, first, head.initial,
    first + 1, spells_character.mpr ⟨rfl, head.parted⟩, second, head.condition,
    second + 1, spells_character.mpr ⟨rfl, head.partedAgain⟩, close, head.update,
    close + 1, spells_character.mpr ⟨rfl, head.closed⟩, brace, head.after,
    brace + 1, spells_character.mpr ⟨rfl, head.braced⟩, bracket, body,
    bracket + 1, spells_character.mpr ⟨rfl, opened⟩, last, index,
    spells_character.mpr ⟨rfl, ended⟩⟩

end LoopHead

theorem steady_loop : Steady loop where
  unique found again := by
    obtain ⟨_, _, _, _, _, _, head, body, ended, stop, groups⟩ := mem_outcomes_loop.mp found
    obtain ⟨_, _, _, _, _, _, other, body', ended', stop', groups'⟩ := mem_outcomes_loop.mp again
    obtain ⟨rfl, rfl, rfl, rfl, rfl⟩ := head.unique other
    obtain rfl := body.unique_of_butNot ended body' ended'
    exact Prod.ext (stop.trans stop'.symm) (groups.trans groups'.symm)
  ordered found later order := by
    obtain ⟨_, _, _, _, _, _, head, body, -, rfl, -⟩ := mem_outcomes_loop.mp found
    obtain ⟨_, _, _, _, _, _, other, body', ended', rfl, -⟩ := mem_outcomes_loop.mp later
    have braces := head.brace_le other order
    have inside := body'.1
    have stops := body.le_of_butNot ended' (by omega)
    omega

theorem returnTypes_unique {kind kind' : List Char} (listed : kind ∈ returnTypes)
    (listed' : kind' ∈ returnTypes) (keyword : kind <+: text.drop start)
    (keyword' : kind' <+: text.drop start) : kind = kind' := by
  have free : ∀ word ∈ returnTypes, ∀ other ∈ returnTypes, word <+: other → word = other := by
    decide
  rcases List.prefix_or_prefix_of_prefix keyword keyword' with shorter | longer
  · exact free kind listed kind' listed' shorter
  · exact (free kind' listed' kind listed longer).symm

namespace FunctionHead

variable {kind : List Char} {nameStart nameStop paren close brace : Nat}
  {start' : Nat} {kind' : List Char} {nameStart' nameStop' paren' close' brace' : Nat}

theorem gap_ended (head : FunctionHead text start kind nameStart nameStop paren close brace) :
    ¬ text[nameStart]?.any Text.isBlank :=
  Text.not_isBlank_at (head.named.2.2 nameStart (Nat.le_refl nameStart) head.named.1)

theorem blank_ended (head : FunctionHead text start kind nameStart nameStop paren close brace) :
    ¬ text[paren]?.any Text.isBlank := by
  rw [head.opened]
  decide

theorem name_ended (head : FunctionHead text start kind nameStart nameStop paren close brace) :
    ¬ text[nameStop]?.any CharClass.identifier.holds := by
  rcases Nat.eq_or_lt_of_le head.blank.1 with rfl | more
  · rw [head.opened]
    decide
  · have blank := head.blank.2 nameStop (Nat.le_refl nameStop) more
    exact fun letter => Text.not_isBlank_at letter blank

theorem unique (head : FunctionHead text start kind nameStart nameStop paren close brace)
    (again : FunctionHead text start kind' nameStart' nameStop' paren' close' brace') :
    kind = kind' ∧ nameStart = nameStart' ∧ nameStop = nameStop' ∧ paren = paren' ∧
      close = close' ∧ brace = brace' := by
  obtain rfl := returnTypes_unique head.listed again.listed head.keyword again.keyword
  obtain rfl := head.gap.2.unique again.gap.2 head.gap_ended again.gap_ended
  obtain rfl := head.named.2.unique again.named.2 head.name_ended again.name_ended
  obtain rfl := head.blank.unique again.blank head.blank_ended again.blank_ended
  obtain rfl := head.parameters.unique_of_butNot head.closed again.parameters again.closed
  have same : brace = brace' :=
    head.after.unique again.after (by rw [head.braced]; decide) (by rw [again.braced]; decide)
  exact ⟨rfl, rfl, rfl, rfl, rfl, same⟩

theorem paren_lt (head : FunctionHead text start kind nameStart nameStop paren close brace)
    {index : Nat} (found : text[index]? = some ')') (after : start ≤ index) : paren < index := by
  have words : ∀ word ∈ returnTypes, word.all (CharClass.butNot ')').holds := by decide
  have keyword := Text.Run.of_prefix head.keyword (words kind head.listed)
  have beyond := keyword.le_of_butNot found after
  have solid : ¬ text[index]?.any Text.isBlank := by
    rw [found]
    decide
  have letter : ¬ text[index]?.any CharClass.identifier.holds := by
    rw [found]
    decide
  have gap := head.gap.2.outside solid
  have named := head.named.2.outside letter
  have blank := head.blank.outside solid
  have other : index ≠ paren := by
    rintro rfl
    exact absurd (found.symm.trans head.opened) (by decide)
  omega

/-- A later function head does not end earlier. -/
theorem brace_le (head : FunctionHead text start kind nameStart nameStop paren close brace)
    (later : FunctionHead text start' kind' nameStart' nameStop' paren' close' brace')
    (order : start < start') : brace ≤ brace' := by
  have gap := later.gap.1
  have named := later.named.1
  have blank := later.blank.1
  have parameters := later.parameters.1
  have behind := head.paren_lt later.closed (by omega)
  have closeOrder := head.parameters.le_of_butNot later.closed behind
  exact brace_le_of_close_le head.after head.braced later.closed later.after later.braced closeOrder

end FunctionHead

theorem steady_function : Steady function where
  unique found again := by
    obtain ⟨_, _, _, _, _, _, head, stop, groups⟩ := mem_outcomes_function.mp found
    obtain ⟨_, _, _, _, _, _, other, stop', groups'⟩ := mem_outcomes_function.mp again
    obtain ⟨rfl, rfl, rfl, rfl, rfl, rfl⟩ := head.unique other
    exact Prod.ext (stop.trans stop'.symm) (groups.trans groups'.symm)
  ordered found later order := by
    obtain ⟨_, _, _, _, _, _, head, rfl, -⟩ := mem_outcomes_function.mp found
    obtain ⟨_, _, _, _, _, _, other, rfl, -⟩ := mem_outcomes_function.mp later
    have braces := head.brace_le other order
    omega

end Catalog

end OverflowScan
