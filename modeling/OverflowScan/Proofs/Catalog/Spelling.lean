import OverflowScan.Proofs.Catalog.Matching

set_option autoImplicit false

namespace OverflowScan.Catalog

open Pattern

variable {text : List Char} {start stop : Nat} {groups : List (Nat × List Char)}

def unsafeNames : List (List Char) :=
  ["strcpy".toList, "strcat".toList, "sprintf".toList, "gets".toList, "scanf".toList]

/-- The pieces of a call: a word, blanks and an opening parenthesis. -/
structure CallParts (text : List Char) (start : Nat) (word : List Char) (paren : Nat) : Prop where
  edge : Text.WordEdge text start
  keyword : word <+: text.drop start
  blank : Text.Run Text.isBlank text (start + word.length) paren
  opened : text[paren]? = some '('

theorem mem_outcomes_unsafeCall :
    (stop, groups) ∈ unsafeCall.pattern.outcomes text start ↔
      ∃ name ∈ unsafeNames, ∃ paren, CallParts text start name paren ∧ stop = paren + 1 ∧
        groups = [(1, name)] := by
  constructor
  · intro found
    obtain ⟨edge, atName⟩ := mem_outcomes_seq_boundary.mp found
    obtain ⟨nameStop, _, word, atBlank, rfl⟩ := (mem_outcomes_seq_group rfl).mp atName
    obtain ⟨name, listed, rfl, keyword⟩ := (spells_words "strcpy".toList unsafeNames.tail).mp word
    obtain ⟨paren, blank, atParen⟩ := mem_outcomes_seq_many.mp atBlank
    obtain ⟨rfl, opened, rfl⟩ := mem_outcomes_character.mp atParen
    refine ⟨name, listed, paren, ⟨edge, keyword, blank, opened⟩, rfl, ?_⟩
    rw [Text.slice_eq_of_prefix text name start keyword]
    rfl
  · rintro ⟨name, listed, paren, parts, rfl, rfl⟩
    have word := (spells_words "strcpy".toList unsafeNames.tail).mpr
      ⟨name, listed, rfl, parts.keyword⟩
    refine mem_outcomes_seq_boundary.mpr ⟨parts.edge, ?_⟩
    refine (mem_outcomes_seq_group rfl).mpr ⟨start + name.length, [], word, ?_, by
      rw [Text.slice_eq_of_prefix text name start parts.keyword]
      rfl⟩
    refine mem_outcomes_seq_many.mpr ⟨paren, parts.blank, ?_⟩
    exact mem_outcomes_character.mpr ⟨rfl, parts.opened, rfl⟩

theorem mem_outcomes_standardCopy :
    (stop, groups) ∈ standardCopy.pattern.outcomes text start ↔
      ∃ paren, CallParts text start "std::copy".toList paren ∧ stop = paren + 1 ∧ groups = [] := by
  constructor
  · intro found
    obtain ⟨edge, atName⟩ := mem_outcomes_seq_boundary.mp found
    obtain ⟨keyword, atBlank⟩ := mem_outcomes_seq_exactly.mp atName
    obtain ⟨paren, blank, atParen⟩ := mem_outcomes_seq_many.mp atBlank
    obtain ⟨rfl, opened, rfl⟩ := mem_outcomes_character.mp atParen
    exact ⟨paren, ⟨edge, keyword, blank, opened⟩, rfl, rfl⟩
  · rintro ⟨paren, parts, rfl, rfl⟩
    refine mem_outcomes_seq_boundary.mpr ⟨parts.edge, ?_⟩
    refine mem_outcomes_seq_exactly.mpr ⟨parts.keyword, ?_⟩
    refine mem_outcomes_seq_many.mpr ⟨paren, parts.blank, ?_⟩
    exact mem_outcomes_character.mpr ⟨rfl, parts.opened, rfl⟩

/-- The pieces of a fixed-size buffer declaration and where they end. -/
structure BufferParts (text : List Char) (start gapStop nameStop bracket digitStop : Nat) :
    Prop where
  edge : Text.WordEdge text start
  keyword : "char".toList <+: text.drop start
  gap : start + 4 < gapStop ∧ Text.Run Text.isBlank text (start + 4) gapStop
  named : gapStop < nameStop ∧ Text.Run CharClass.identifier.holds text gapStop nameStop
  blank : Text.Run Text.isBlank text nameStop bracket
  opened : text[bracket]? = some '['
  digits : bracket + 1 < digitStop ∧ Text.Run Char.isDigit text (bracket + 1) digitStop
  closed : text[digitStop]? = some ']'

theorem mem_outcomes_fixedBuffer :
    (stop, groups) ∈ fixedBuffer.pattern.outcomes text start ↔
      ∃ gapStop nameStop bracket digitStop,
        BufferParts text start gapStop nameStop bracket digitStop ∧
          stop = digitStop + 1 ∧ groups = [] := by
  constructor
  · intro found
    obtain ⟨edge, found⟩ := mem_outcomes_seq_boundary.mp found
    obtain ⟨keyword, found⟩ := mem_outcomes_seq_exactly.mp found
    obtain ⟨gapStop, gap, found⟩ := mem_outcomes_seq_atLeastOne.mp found
    obtain ⟨nameStop, named, found⟩ := mem_outcomes_seq_atLeastOne.mp found
    obtain ⟨bracket, blank, found⟩ := mem_outcomes_seq_many.mp found
    obtain ⟨opened, found⟩ := mem_outcomes_seq_character.mp found
    obtain ⟨digitStop, digits, found⟩ := mem_outcomes_seq_atLeastOne.mp found
    obtain ⟨rfl, closed, rfl⟩ := mem_outcomes_character.mp found
    exact ⟨gapStop, nameStop, bracket, digitStop,
      ⟨edge, keyword, gap, named, blank, opened, digits, closed⟩, rfl, rfl⟩
  · rintro ⟨gapStop, nameStop, bracket, digitStop, parts, rfl, rfl⟩
    refine mem_outcomes_seq_boundary.mpr ⟨parts.edge, ?_⟩
    refine mem_outcomes_seq_exactly.mpr ⟨parts.keyword, ?_⟩
    refine mem_outcomes_seq_atLeastOne.mpr ⟨gapStop, parts.gap, ?_⟩
    refine mem_outcomes_seq_atLeastOne.mpr ⟨nameStop, parts.named, ?_⟩
    refine mem_outcomes_seq_many.mpr ⟨bracket, parts.blank, ?_⟩
    refine mem_outcomes_seq_character.mpr ⟨parts.opened, ?_⟩
    refine mem_outcomes_seq_atLeastOne.mpr ⟨digitStop, parts.digits, ?_⟩
    exact mem_outcomes_character.mpr ⟨rfl, parts.closed, rfl⟩

theorem loop_openings : loop.openings = ["for".toList] := rfl

def returnTypes : List (List Char) :=
  ["void".toList, "int".toList, "char".toList, "bool".toList, "std::string".toList, "auto".toList]

theorem function_openings : function.openings = returnTypes := rfl

/-- The pieces of a function head and where they end. -/
structure FunctionHead (text : List Char) (start : Nat) (kind : List Char)
    (nameStart nameStop paren close brace : Nat) : Prop where
  edge : Text.WordEdge text start
  listed : kind ∈ returnTypes
  keyword : kind <+: text.drop start
  gap : start + kind.length < nameStart ∧
    Text.Run Text.isBlank text (start + kind.length) nameStart
  named : nameStart < nameStop ∧ Text.Run CharClass.identifier.holds text nameStart nameStop
  blank : Text.Run Text.isBlank text nameStop paren
  opened : text[paren]? = some '('
  parameters : Text.Run (CharClass.butNot ')').holds text (paren + 1) close
  closed : text[close]? = some ')'
  after : Text.Run Text.isBlank text (close + 1) brace
  braced : text[brace]? = some '\x7b'

theorem mem_outcomes_function :
    (stop, groups) ∈ function.outcomes text start ↔
      ∃ kind nameStart nameStop paren close brace,
        FunctionHead text start kind nameStart nameStop paren close brace ∧ stop = brace + 1 ∧
          groups = [(3, Text.slice text (paren + 1) close),
            (2, Text.slice text nameStart nameStop), (1, kind)] := by
  constructor
  · intro found
    obtain ⟨edge, atKind⟩ := mem_outcomes_seq_boundary.mp found
    obtain ⟨kindStop, _, word, atGap, rfl⟩ := (mem_outcomes_seq_group rfl).mp atKind
    obtain ⟨kind, listed, rfl, keyword⟩ := (spells_words "void".toList returnTypes.tail).mp word
    obtain ⟨nameStart, gap, atName⟩ := mem_outcomes_seq_atLeastOne.mp atGap
    obtain ⟨nameStop, _, named, atBlank, rfl⟩ := (mem_outcomes_seq_group rfl).mp atName
    obtain ⟨paren, blank, atParen⟩ := mem_outcomes_seq_many.mp atBlank
    obtain ⟨opened, atParameters⟩ := mem_outcomes_seq_character.mp atParen
    obtain ⟨close, _, parameters, atClose, rfl⟩ := (mem_outcomes_seq_group rfl).mp atParameters
    obtain ⟨closed, atAfter⟩ := mem_outcomes_seq_character.mp atClose
    obtain ⟨brace, after, atBrace⟩ := mem_outcomes_seq_many.mp atAfter
    obtain ⟨rfl, braced, rfl⟩ := mem_outcomes_character.mp atBrace
    refine ⟨kind, nameStart, nameStop, paren, close, brace,
      ⟨edge, listed, keyword, gap, spells_atLeastOne.mp named, blank, opened, parameters, closed,
        after, braced⟩, rfl, ?_⟩
    rw [Text.slice_eq_of_prefix text kind start keyword]
    rfl
  · rintro ⟨kind, nameStart, nameStop, paren, close, brace, head, rfl, rfl⟩
    have word := (spells_words "void".toList returnTypes.tail).mpr
      ⟨kind, head.listed, rfl, head.keyword⟩
    refine mem_outcomes_seq_boundary.mpr ⟨head.edge, ?_⟩
    refine (mem_outcomes_seq_group rfl).mpr ⟨start + kind.length, _, word, ?_, by
      rw [Text.slice_eq_of_prefix text kind start head.keyword]
      exact (List.append_assoc [(3, _)] [(2, _)] [(1, kind)]).symm⟩
    refine mem_outcomes_seq_atLeastOne.mpr ⟨nameStart, head.gap, ?_⟩
    refine (mem_outcomes_seq_group rfl).mpr
      ⟨nameStop, _, spells_atLeastOne.mpr head.named, ?_, rfl⟩
    refine mem_outcomes_seq_many.mpr ⟨paren, head.blank, ?_⟩
    refine mem_outcomes_seq_character.mpr ⟨head.opened, ?_⟩
    refine (mem_outcomes_seq_group rfl).mpr ⟨close, [], head.parameters, ?_, rfl⟩
    refine mem_outcomes_seq_character.mpr ⟨head.closed, ?_⟩
    refine mem_outcomes_seq_many.mpr ⟨brace, head.after, ?_⟩
    exact mem_outcomes_character.mpr ⟨rfl, head.braced, rfl⟩

theorem mem_outcomes_arrayAccess :
    (stop, groups) ∈ arrayAccess.outcomes text start ↔
      ∃ close, text[start]? = some '[' ∧ start + 1 < close ∧
        Text.Run (CharClass.butNot ']').holds text (start + 1) close ∧ text[close]? = some ']' ∧
        stop = close + 1 ∧ groups = [(1, Text.slice text (start + 1) close)] := by
  constructor
  · intro found
    obtain ⟨opened, atIndex⟩ := mem_outcomes_seq_character.mp found
    obtain ⟨close, _, index, atClose, rfl⟩ := (mem_outcomes_seq_group rfl).mp atIndex
    obtain ⟨rfl, closed, rfl⟩ := mem_outcomes_character.mp atClose
    obtain ⟨filled, run⟩ := spells_atLeastOne.mp index
    exact ⟨close, opened, filled, run, closed, rfl, rfl⟩
  · rintro ⟨close, opened, filled, run, closed, rfl, rfl⟩
    refine mem_outcomes_seq_character.mpr ⟨opened, ?_⟩
    refine (mem_outcomes_seq_group rfl).mpr
      ⟨close, [], spells_atLeastOne.mpr ⟨filled, run⟩, ?_, rfl⟩
    exact mem_outcomes_character.mpr ⟨rfl, closed, rfl⟩

theorem spells_bodyAccess :
    bodyAccess.Spells text start stop ↔
      ∃ close, text[start]? = some '[' ∧ start + 1 < close ∧
        Text.Run (CharClass.butNot ']').holds text (start + 1) close ∧ text[close]? = some ']' ∧
        stop = close + 1 := by
  constructor
  · rintro ⟨_, opening, close, index, closing⟩
    obtain ⟨rfl, opened⟩ := spells_character.mp opening
    obtain ⟨rfl, closed⟩ := spells_character.mp closing
    obtain ⟨filled, run⟩ := spells_atLeastOne.mp index
    exact ⟨close, opened, filled, run, closed, rfl⟩
  · rintro ⟨close, opened, filled, run, closed, rfl⟩
    exact ⟨start + 1, spells_character.mpr ⟨rfl, opened⟩, close,
      spells_atLeastOne.mpr ⟨filled, run⟩, spells_character.mpr ⟨rfl, closed⟩⟩

theorem assignment_occursIn_iff (text : List Char) :
    assignment.occursIn text ↔
      ∃ first second : Nat,
        first < second ∧ text[first]? = some '=' ∧ text[second]? = some ';' := by
  rw [occursIn_iff assignment text (by decide)]
  constructor
  · rintro ⟨start, _, _, sign, value, blank, last, run, ending⟩
    obtain ⟨rfl, equals⟩ := spells_character.mp sign
    obtain ⟨rfl, ended⟩ := spells_character.mp ending
    have order : start + 1 ≤ value := blank.1
    have later := run.1
    exact ⟨start, last, by omega, equals, ended⟩
  · rintro ⟨first, second, order, equals, semicolon⟩
    have behind : ';' ∈ text.drop (first + 1) := by
      refine List.mem_of_getElem? (i := second - (first + 1)) ?_
      rw [List.getElem?_drop, Nat.add_sub_cancel' order]
      exact semicolon
    obtain ⟨value, rest, split, absent⟩ := List.eq_append_cons_of_mem behind
    have run := Text.Run.of_drop_eq split (CharClass.forall_holds_butNot_iff.mpr absent)
    have ended := (Text.of_drop_eq_cons (Text.drop_add_length split)).1
    exact ⟨first, _, first + 1, spells_character.mpr ⟨rfl, equals⟩, first + 1,
      Text.Run.refl _ text _, _, run, spells_character.mpr ⟨rfl, ended⟩⟩

/-- An ASCII identifier: a letter or underscore, then letters, digits and underscores. -/
def IsIdentifier (word : List Char) : Prop :=
  ∃ first rest, word = first :: rest ∧ (first.isAlpha || first == '_') ∧
    ∀ c ∈ rest, c.isAlphanum || c == '_'

theorem identifier_matchWhole?_iff (word : List Char) :
    (identifier.matchWhole? word).isSome ↔ IsIdentifier word := by
  rw [matchWhole?_isSome_iff]
  constructor
  · rintro ⟨middle, ⟨rfl, letter⟩, run⟩
    cases word with
    | nil => simp at letter
    | cons first rest =>
        refine ⟨first, rest, rfl, letter, fun c member => run.forall_mem c ?_⟩
        simpa [Text.slice] using member
  · rintro ⟨first, rest, rfl, letter, all⟩
    have split : (first :: rest).drop 1 = rest ++ [] := (List.append_nil rest).symm
    have run := Text.Run.of_drop_eq split all
    rw [Nat.add_comm, ← List.length_cons] at run
    exact ⟨1, ⟨rfl, letter⟩, run⟩

end OverflowScan.Catalog
