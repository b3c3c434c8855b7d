import OverflowScan.Proofs.Catalog.Apart

set_option autoImplicit false

namespace OverflowScan.Catalog

/-- The line goes on with the given words at an offset, and no word character comes before them. -/
def StandsAt (line : List Char) (offset : Nat) (words : List Char) : Prop :=
  ¬ (Text.before? line offset).any Text.isWord ∧ words <+: line.drop offset

/-- One of the unsafe names stands at an offset, and only blanks separate it from an opening
parenthesis. -/
def UnsafeCallAt (line : List Char) (offset : Nat) (name : String) : Prop :=
  name.toList ∈ unsafeNames ∧
    ∃ blanks, (∀ c ∈ blanks, Text.isBlank c) ∧ StandsAt line offset (name.toList ++ blanks ++ ['('])

def StandardCopyAt (line : List Char) (offset : Nat) (call : String) : Prop :=
  ∃ blanks, (∀ c ∈ blanks, Text.isBlank c) ∧
    call.toList = "std::copy".toList ++ blanks ++ ['('] ∧ StandsAt line offset call.toList

/-- A buffer declaration stands at an offset: the keyword, blanks, a name of ASCII letters, digits
and underscores, any blanks, and ASCII digits in brackets. -/
def FixedBufferAt (line : List Char) (offset : Nat) (declaration : String) : Prop :=
  ∃ gap name blanks digits,
    (gap ≠ [] ∧ ∀ c ∈ gap, Text.isBlank c) ∧
    (name ≠ [] ∧ ∀ c ∈ name, c.isAlphanum || c == '_') ∧
    (∀ c ∈ blanks, Text.isBlank c) ∧
    (digits ≠ [] ∧ ∀ c ∈ digits, c.isDigit) ∧
    declaration.toList = "char".toList ++ gap ++ name ++ blanks ++ ['['] ++ digits ++ [']'] ∧
    StandsAt line offset declaration.toList

variable {text : List Char} {offset : Nat}

section Calls

variable {words : List (List Char)} {word blanks : List Char} {paren : Nat}

theorem CallParts.shown (parts : CallParts text offset word paren) :
    Text.slice text offset (paren + 1) =
      word ++ Text.slice text (offset + word.length) paren ++ ['('] := by
  have order := parts.blank.1
  rw [← Text.slice_append text offset (offset + word.length) (paren + 1) (by omega) (by omega),
    ← Text.slice_append text (offset + word.length) paren (paren + 1) (by omega) (by omega),
    Text.slice_eq_of_prefix text word offset parts.keyword, Text.slice_singleton parts.opened,
    List.append_assoc]

theorem CallParts.standsAt (keywords : Keywords words) (listed : word ∈ words)
    (parts : CallParts text offset word paren) :
    StandsAt text offset (Text.slice text offset (paren + 1)) := by
  have opens := (keywords.head listed parts.keyword).2
  exact ⟨(Text.wordEdge_iff (Text.isWord_at opens)).mp parts.edge,
    Text.slice_prefix_drop text offset (paren + 1)⟩

theorem CallParts.of_standsAt (keywords : Keywords words) (listed : word ∈ words)
    (blank : ∀ c ∈ blanks, Text.isBlank c)
    (stands : StandsAt text offset (word ++ blanks ++ ['('])) :
    CallParts text offset word (offset + word.length + blanks.length) := by
  obtain ⟨free, rest, split⟩ := stands
  have atWord : text.drop offset = word ++ (blanks ++ '(' :: rest) := by simp [← split]
  have keyword : word <+: text.drop offset := ⟨_, atWord.symm⟩
  have atBlanks := Text.drop_add_length atWord
  have atParen := Text.drop_add_length atBlanks
  have opens := (keywords.head listed keyword).2
  exact ⟨(Text.wordEdge_iff (Text.isWord_at opens)).mpr free, keyword,
    Text.Run.of_drop_eq atBlanks blank, (Text.of_drop_eq_cons atParen).1⟩

end Calls

theorem unsafeCallAt_iff {name : String} :
    UnsafeCallAt text offset name ↔
      name.toList ∈ unsafeNames ∧ ∃ paren, CallParts text offset name.toList paren := by
  refine and_congr_right fun listed => ?_
  constructor
  · rintro ⟨blanks, blank, stands⟩
    exact ⟨_, CallParts.of_standsAt keywords_unsafeNames listed blank stands⟩
  · rintro ⟨paren, parts⟩
    have stands := parts.standsAt keywords_unsafeNames listed
    rw [parts.shown] at stands
    exact ⟨_, parts.blank.forall_mem, stands⟩

theorem standardCopyAt_iff {call : String} :
    StandardCopyAt text offset call ↔
      ∃ paren, CallParts text offset "std::copy".toList paren ∧
        call.toList = Text.slice text offset (paren + 1) := by
  have listed : "std::copy".toList ∈ ["std::copy".toList] := List.mem_singleton.mpr rfl
  constructor
  · rintro ⟨blanks, blank, shown, stands⟩
    rw [shown] at stands
    have parts := CallParts.of_standsAt keywords_standardCopy listed blank stands
    have width := Text.slice_eq_of_prefix text _ offset stands.2
    simp only [List.length_append, List.length_singleton, ← Nat.add_assoc] at width
    exact ⟨_, parts, shown.trans width.symm⟩
  · rintro ⟨paren, parts, shown⟩
    have stands := parts.standsAt keywords_standardCopy listed
    rw [← shown] at stands
    exact ⟨_, parts.blank.forall_mem, shown.trans parts.shown, stands⟩

section Buffers

variable {gapStop nameStop bracket digitStop : Nat} {gap name blanks digits : List Char}

theorem BufferParts.shown (parts : BufferParts text offset gapStop nameStop bracket digitStop) :
    Text.slice text offset (digitStop + 1) =
      "char".toList ++ Text.slice text (offset + 4) gapStop ++ Text.slice text gapStop nameStop ++
        Text.slice text nameStop bracket ++ ['['] ++ Text.slice text (bracket + 1) digitStop ++
        [']'] := by
  have keyword : Text.slice text offset (offset + 4) = "char".toList :=
    Text.slice_eq_of_prefix text "char".toList offset parts.keyword
  have gap := parts.gap.1
  have named := parts.named.1
  have blank := parts.blank.1
  have digits := parts.digits.1
  rw [← keyword, ← Text.slice_singleton parts.opened, ← Text.slice_singleton parts.closed,
    Text.slice_append text offset (offset + 4) gapStop (by omega) (by omega),
    Text.slice_append text offset gapStop nameStop (by omega) (by omega),
    Text.slice_append text offset nameStop bracket (by omega) (by omega),
    Text.slice_append text offset bracket (bracket + 1) (by omega) (by omega),
    Text.slice_append text offset (bracket + 1) digitStop (by omega) (by omega),
    Text.slice_append text offset digitStop (digitStop + 1) (by omega) (by omega)]

theorem BufferParts.of_standsAt (gapped : gap ≠ [] ∧ ∀ c ∈ gap, Text.isBlank c)
    (named : name ≠ [] ∧ ∀ c ∈ name, c.isAlphanum || c == '_')
    (blank : ∀ c ∈ blanks, Text.isBlank c) (sized : digits ≠ [] ∧ ∀ c ∈ digits, c.isDigit)
    (stands : StandsAt text offset
      ("char".toList ++ gap ++ name ++ blanks ++ ['['] ++ digits ++ [']'])) :
    BufferParts text offset (offset + 4 + gap.length) (offset + 4 + gap.length + name.length)
      (offset + 4 + gap.length + name.length + blanks.length)
      (offset + 4 + gap.length + name.length + blanks.length + 1 + digits.length) := by
  obtain ⟨free, rest, split⟩ := stands
  have atKeyword : text.drop offset =
      "char".toList ++ (gap ++ (name ++ (blanks ++ ('[' :: (digits ++ ']' :: rest))))) := by
    rw [← split]
    simp only [List.append_assoc, List.cons_append, List.nil_append]
  have keyword : "char".toList <+: text.drop offset := ⟨_, atKeyword.symm⟩
  have atGap : text.drop (offset + 4) = _ := Text.drop_add_length atKeyword
  have atName := Text.drop_add_length atGap
  have atBlanks := Text.drop_add_length atName
  obtain ⟨opened, atDigits⟩ := Text.of_drop_eq_cons (Text.drop_add_length atBlanks)
  obtain ⟨closed, -⟩ := Text.of_drop_eq_cons (Text.drop_add_length atDigits)
  have opens : text[offset]? = some 'c' := Text.getElem?_eq_head? keyword (by decide)
  have edge := (Text.wordEdge_iff (by rw [opens]; decide)).mpr free
  have gapRun := Text.Run.of_drop_eq atGap gapped.2
  have nameRun := Text.Run.of_drop_eq atName named.2
  have digitRun := Text.Run.of_drop_eq atDigits sized.2
  have gapLength := List.length_pos_iff.mpr gapped.1
  have nameLength := List.length_pos_iff.mpr named.1
  have digitLength := List.length_pos_iff.mpr sized.1
  exact ⟨edge, keyword, ⟨by omega, gapRun⟩, ⟨by omega, nameRun⟩,
    Text.Run.of_drop_eq atBlanks blank, opened, ⟨by omega, digitRun⟩, closed⟩

end Buffers

theorem fixedBufferAt_iff {declaration : String} :
    FixedBufferAt text offset declaration ↔
      ∃ gapStop nameStop bracket digitStop,
        BufferParts text offset gapStop nameStop bracket digitStop ∧
          declaration.toList = Text.slice text offset (digitStop + 1) := by
  constructor
  · rintro ⟨gap, name, blanks, digits, gapped, named, blank, sized, shown, stands⟩
    rw [shown] at stands
    have parts := BufferParts.of_standsAt gapped named blank sized stands
    have width := Text.slice_eq_of_prefix text _ offset stands.2
    simp only [List.length_append, List.length_singleton, ← Nat.add_assoc] at width
    exact ⟨_, _, _, _, parts, shown.trans width.symm⟩
  · rintro ⟨gapStop, nameStop, bracket, digitStop, parts, shown⟩
    have free := (Text.wordEdge_iff (by rw [parts.opens]; decide)).mp parts.edge
    refine ⟨_, _, _, _, ⟨parts.gap.2.slice_ne_nil parts.gap.1, parts.gap.2.forall_mem⟩,
      ⟨parts.named.2.slice_ne_nil parts.named.1, parts.named.2.forall_mem⟩,
      parts.blank.forall_mem,
      ⟨parts.digits.2.slice_ne_nil parts.digits.1, parts.digits.2.forall_mem⟩,
      shown.trans parts.shown, free, ?_⟩
    rw [shown]
    exact Text.slice_prefix_drop text offset (digitStop + 1)

end OverflowScan.Catalog
