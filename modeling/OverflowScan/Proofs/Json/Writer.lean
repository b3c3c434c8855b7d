import OverflowScan.Document.Json
import OverflowScan.Proofs.Document
import OverflowScan.Proofs.Json.Grammar
import OverflowScan.Proofs.Text.Ascii

set_option autoImplicit false

namespace OverflowScan.Json

open Text

theorem renderItems_eq_map (depth : Nat) (items : List Document) :
    renderItems depth items = items.map (render depth) := by
  induction items with
  | nil => rw [renderItems, List.map_nil]
  | cons item rest ih => rw [renderItems, List.map_cons, ih]

theorem renderFields_eq_map (depth : Nat) (fields : List (String × Document)) :
    renderFields depth fields =
      fields.map fun field => string field.1 ++ ':' :: ' ' :: render depth field.2 := by
  induction fields with
  | nil => rw [renderFields, List.map_nil]
  | cons field rest ih => rw [renderFields, List.map_cons, ih]

theorem spellsUnit_hexPadded {unit : Nat} (fits : unit < 0x10000) :
    SpellsUnit unit (Text.hexPadded 4 unit) :=
  ⟨Text.length_hexPadded (by decide) fits, Text.hexNumber?_hexPadded 4 unit⟩

theorem spellsChar_pair {c : Char} (astral : 0x10000 ≤ c.toNat) :
    SpellsChar c (unitEscape (0xD800 + (c.toNat - 0x10000) / 0x400) ++
      unitEscape (0xDC00 + (c.toNat - 0x10000) % 0x400)) := by
  have bound := toNat_char c
  have high : IsHigh (0xD800 + (c.toNat - 0x10000) / 0x400) := by
    unfold IsHigh
    omega
  have low : IsLow (0xDC00 + (c.toNat - 0x10000) % 0x400) := by
    unfold IsLow
    omega
  have point : c.toNat =
      joined (0xD800 + (c.toNat - 0x10000) / 0x400) (0xDC00 + (c.toNat - 0x10000) % 0x400) := by
    unfold joined
    omega
  apply SpellsChar.pair high low point
  · apply spellsUnit_hexPadded
    omega
  · apply spellsUnit_hexPadded
    omega

/-- The ways in which a character is written. -/
theorem escapedChar_cases (c : Char) :
    (∃ letter, (letter, c) ∈ shortEscapes ∧ escapedChar c = ['\\', letter]) ∨
    (IsPlain c ∧ c ≤ '~' ∧ escapedChar c = [c]) ∨
    (c.toNat < 0x10000 ∧ escapedChar c = unitEscape c.toNat) ∨
    (0x10000 ≤ c.toNat ∧ escapedChar c =
      unitEscape (0xD800 + (c.toNat - 0x10000) / 0x400) ++
        unitEscape (0xDC00 + (c.toNat - 0x10000) % 0x400)) := by
  have named : ∀ c ∈ ['"', '\\', '\n', '\r', '\t', '\x0c', '\x08'],
      ∃ entry ∈ shortEscapes, entry.2 = c ∧ escapedChar c = ['\\', entry.1] := by
    simp [shortEscapes, escapedChar]
  by_cases known : c ∈ ['"', '\\', '\n', '\r', '\t', '\x0c', '\x08']
  · obtain ⟨entry, listed, same, written⟩ := named c known
    subst same
    exact Or.inl ⟨entry.1, listed, written⟩
  · simp only [List.mem_cons, List.not_mem_nil, or_false, not_or] at known
    obtain ⟨quote, backslash, feed, ret, tab, page, back⟩ := known
    have left : escapedChar c =
        if ' ' ≤ c ∧ c ≤ '~' then [c]
        else if c.toNat < 0x10000 then unitEscape c.toNat
        else
          unitEscape (0xD800 + (c.toNat - 0x10000) / 0x400) ++
            unitEscape (0xDC00 + (c.toNat - 0x10000) % 0x400) := by
      rw [escapedChar, if_neg quote, if_neg backslash, if_neg feed, if_neg ret, if_neg tab,
        if_neg page, if_neg back]
    apply Or.inr
    by_cases shown : ' ' ≤ c ∧ c ≤ '~'
    · rw [if_pos shown] at left
      exact Or.inl ⟨⟨shown.1, quote, backslash⟩, shown.2, left⟩
    · rw [if_neg shown] at left
      apply Or.inr
      by_cases fits : c.toNat < 0x10000
      · rw [if_pos fits] at left
        exact Or.inl ⟨fits, left⟩
      · rw [if_neg fits] at left
        exact Or.inr ⟨Nat.le_of_not_lt fits, left⟩

theorem spellsChar_escapedChar (c : Char) : SpellsChar c (escapedChar c) := by
  rcases escapedChar_cases c with ⟨letter, known, written⟩ | ⟨plain, _, written⟩ | ⟨fits, written⟩ |
    ⟨astral, written⟩
  · rw [written]
    exact .short known
  · rw [written]
    exact .plain plain
  · rw [written]
    exact .unit (spellsUnit_hexPadded fits)
  · rw [written]
    exact spellsChar_pair astral

theorem spellsText_flatMap (text : List Char) : SpellsText text (text.flatMap escapedChar) := by
  induction text with
  | nil => exact .nil
  | cons c rest ih => exact .cons (spellsChar_escapedChar c) ih

theorem isNumeral_toDigits (n : Nat) : IsNumeral (Nat.toDigits 10 n) := by
  refine ⟨Nat.toDigits_ne_nil, ?_, Text.toDigits_leading_zero⟩
  intro c member
  exact Nat.isDigit_of_mem_toDigits (by decide) (by decide) member

theorem spellsToken_decimal (value : Int) :
    SpellsToken (.int value) (Text.decimal value).toList := by
  have numeral := isNumeral_toDigits value.natAbs
  have same : numeralValue (Nat.toDigits 10 value.natAbs) = value.natAbs :=
    Nat.ofDigitChars_ten_toDigits
  unfold Text.decimal
  split
  · have spelled := SpellsToken.negative numeral
    rw [same, ← Int.eq_neg_natAbs_of_nonpos (by omega)] at spelled
    rw [String.toList_append, Nat.toList_repr]
    exact spelled
  · have spelled := SpellsToken.natural numeral
    rw [same, Int.natAbs_of_nonneg (by omega)] at spelled
    rw [Nat.toList_repr]
    exact spelled

theorem Written.space {following : List Token} {text : List Char} {c : Char}
    (blank : isSpace c = true) (written : Written following text) :
    Written following (c :: text) := by
  cases written with
  | nil blanks =>
    apply Written.nil
    rw [List.forall_mem_cons]
    exact ⟨blank, blanks⟩
  | @cons token following blanks word rest blanks' spelled ends written =>
    have more : ∀ other ∈ c :: blanks, isSpace other := by
      rw [List.forall_mem_cons]
      exact ⟨blank, blanks'⟩
    exact Written.cons more spelled ends written

theorem Written.newLine {following : List Token} {text : List Char} (depth : Nat)
    (written : Written following text) : Written following (newLine depth ++ text) := by
  have indented : ∀ count, Written following (List.replicate count ' ' ++ text) := by
    intro count
    induction count with
    | zero => exact written
    | succ count ih => exact ih.space rfl
  exact (indented (2 * depth)).space rfl

theorem Written.token {token : Token} {following : List Token} {word text : List Char}
    (spelled : SpellsToken token word) (ends : Ends token text) (written : Written following text) :
    Written (token :: following) (word ++ text) := by
  have none : ∀ c ∈ ([] : List Char), isSpace c := by simp
  exact Written.cons none spelled ends written

theorem ends_of_fixed : ∀ entry ∈ fixedWords, ∀ rest, Ends entry.2 rest := by
  simp [fixedWords, Ends]

theorem Written.fixed {token : Token} {following : List Token} {word text : List Char}
    (known : (word, token) ∈ fixedWords) (written : Written following text) :
    Written (token :: following) (word ++ text) :=
  written.token (.fixed known) (ends_of_fixed _ known text)

theorem Written.string {following : List Token} {text : List Char} (value : String)
    (written : Written following text) :
    Written (.text value :: following) (string value ++ text) :=
  written.token (.text (spellsText_flatMap value.toList)) trivial

theorem noDigit_cons {c : Char} (noDigit : c.isDigit = false) (text : List Char) :
    NoDigit (c :: text) := by
  intro first same
  rw [List.head?_cons] at same
  cases same
  exact noDigit

/-- A text is written for tokens in front of any other text that does not start with a digit. -/
def Writes (text : List Char) (read : List Token) : Prop :=
  ∀ following rest, NoDigit rest → Written following rest →
    Written (read ++ following) (text ++ rest)

/-- Members with commas and line breaks between them. -/
theorem writes_members {α : Type} (depth : Nat) (write : α → List Char) (spell : α → List Token)
    (first : α) (rest : List α)
    (writes : ∀ member ∈ first :: rest, Writes (write member) (spell member)) :
    Writes ((',' :: newLine depth).intercalate ((first :: rest).map write))
      ([Token.comma].intercalate ((first :: rest).map spell)) := by
  induction rest generalizing first with
  | nil =>
    simp only [List.map_cons, List.map_nil, List.intercalate_singleton]
    exact writes first List.mem_cons_self
  | cons second rest ih =>
    have later := ih second (fun member inside => writes member (List.mem_cons_of_mem _ inside))
    intro following text noDigit written
    have behind := (later following text noDigit written).newLine depth
    have comma : Written (Token.comma :: _) ([','] ++ _) := behind.fixed (by decide)
    have whole := writes first List.mem_cons_self _ _ (noDigit_cons rfl _) comma
    simp only [List.map_cons, List.intercalate_cons_cons, List.append_assoc, List.cons_append,
      List.nil_append] at whole ⊢
    exact whole

theorem writes_bracketed {α : Type} {opening closing : Char} {opens closes : Token}
    (knownOpening : ([opening], opens) ∈ fixedWords)
    (knownClosing : ([closing], closes) ∈ fixedWords) (depth : Nat) (write : α → List Char)
    (spell : α → List Token) (members : List α)
    (writes : ∀ member ∈ members, Writes (write member) (spell member)) :
    Writes (bracketed opening closing depth (members.map write))
      (opens :: [Token.comma].intercalate (members.map spell) ++ [closes]) := by
  intro following rest _ written
  have closed := written.fixed knownClosing
  cases members with
  | nil =>
    have whole := closed.fixed knownOpening
    exact whole
  | cons first others =>
    have broken := closed.newLine depth
    have inside := writes_members (depth + 1) write spell first others writes _ _
      (noDigit_cons rfl _) broken
    have whole := (inside.newLine (depth + 1)).fixed knownOpening
    simp only [bracketed, List.map_cons, List.isEmpty_cons, Bool.false_eq_true, if_false,
      List.append_assoc, List.cons_append, List.nil_append] at whole ⊢
    exact whole

/-- A document is written, at any depth, for its tokens. -/
theorem writes_render (depth : Nat) (document : Document) :
    Writes (render depth document) (tokens document) := by
  induction document generalizing depth with
  | null =>
    intro following rest _ written
    rw [render, tokens]
    exact written.fixed (by decide)
  | bool value =>
    intro following rest _ written
    cases value with
    | false =>
      rw [render, tokens]
      exact written.fixed (by decide)
    | true =>
      rw [render, tokens]
      exact written.fixed (by decide)
  | int value =>
    intro following rest noDigit written
    rw [render, tokens]
    exact written.token (spellsToken_decimal value) noDigit
  | text value =>
    intro following rest _ written
    rw [render, tokens]
    exact written.string value
  | list items ih =>
    rw [render, tokens, renderItems_eq_map, itemTokens_eq_map]
    apply writes_bracketed (by decide) (by decide)
    intro item inside
    exact ih item inside (depth + 1)
  | map fields ih =>
    rw [render, tokens, renderFields_eq_map, fieldTokens_eq_map]
    apply writes_bracketed (by decide) (by decide)
    intro field inside following rest noDigit written
    -- a field is read from the front, so it is put together from the back
    have value := ih field inside (depth + 1) following rest noDigit written
    have spaced : Written (tokens field.2 ++ following) (' ' :: _) := value.space rfl
    have colon : Written (Token.colon :: _) ([':'] ++ _) := spaced.fixed (by decide)
    have whole := colon.string field.1
    rw [List.append_assoc]
    exact whole

theorem denotes_render (document : Document) : Denotes (render 0 document) document := by
  have nothing : Written [] [] := .nil (by simp)
  have whole := writes_render 0 document [] [] (by simp [NoDigit]) nothing
  rw [List.append_nil, List.append_nil] at whole
  exact whole

theorem ascii_unitEscape (unit : Nat) : Ascii (unitEscape unit) := by
  apply Ascii.cons (by decide)
  exact Ascii.cons (by decide) (ascii_hexPadded 4 unit)

theorem ascii_shortEscapes : ∀ entry ∈ shortEscapes, entry.1.toNat < 128 := by
  decide

theorem ascii_escapedChar (c : Char) : Ascii (escapedChar c) := by
  rcases escapedChar_cases c with ⟨letter, known, written⟩ | ⟨_, shown, written⟩ | ⟨_, written⟩ |
    ⟨_, written⟩
  · rw [written]
    have small := ascii_shortEscapes _ known
    exact Ascii.cons (by decide) (Ascii.cons small ascii_nil)
  · rw [written]
    have small : c.toNat ≤ '~'.toNat := shown
    exact Ascii.cons (Nat.lt_of_le_of_lt small (by decide)) ascii_nil
  · rw [written]
    exact ascii_unitEscape _
  · rw [written]
    exact (ascii_unitEscape _).append (ascii_unitEscape _)

theorem ascii_string (text : String) : Ascii (string text) := by
  apply Ascii.append
  · apply Ascii.cons (by decide)
    intro c member
    obtain ⟨original, _, inside⟩ := List.mem_flatMap.mp member
    exact ascii_escapedChar original c inside
  · exact Ascii.cons (by decide) ascii_nil

theorem ascii_newLine (depth : Nat) : Ascii (newLine depth) := by
  apply Ascii.cons (by decide)
  intro c member
  rw [List.eq_of_mem_replicate member]
  decide

theorem ascii_fixed : ∀ entry ∈ fixedWords, Ascii entry.1 := by
  simp [fixedWords, Ascii]

theorem ascii_bracketed {opening closing : Char} {members : List (List Char)} (depth : Nat)
    (front : opening.toNat < 128) (back : closing.toNat < 128)
    (inside : ∀ member ∈ members, Ascii member) :
    Ascii (bracketed opening closing depth members) := by
  have last : Ascii [closing] := Ascii.cons back ascii_nil
  have separator : Ascii (',' :: newLine (depth + 1)) :=
    Ascii.cons (by decide) (ascii_newLine (depth + 1))
  unfold bracketed
  split
  · exact Ascii.cons front last
  · apply Ascii.append _ last
    apply Ascii.append _ (ascii_newLine depth)
    apply Ascii.append _ (ascii_intercalate separator inside)
    exact Ascii.cons front (ascii_newLine (depth + 1))

theorem ascii_render (depth : Nat) (document : Document) : Ascii (render depth document) := by
  induction document generalizing depth with
  | null =>
    rw [render]
    exact ascii_fixed (_, .null) (by decide)
  | bool value =>
    cases value with
    | false =>
      rw [render]
      exact ascii_fixed (_, .bool false) (by decide)
    | true =>
      rw [render]
      exact ascii_fixed (_, .bool true) (by decide)
  | int value =>
    rw [render]
    exact ascii_decimal value
  | text value =>
    rw [render]
    exact ascii_string value
  | list items ih =>
    rw [render, renderItems_eq_map]
    apply ascii_bracketed depth (by decide) (by decide)
    intro member there
    obtain ⟨item, inside, same⟩ := List.mem_map.mp there
    rw [← same]
    exact ih item inside (depth + 1)
  | map fields ih =>
    rw [render, renderFields_eq_map]
    apply ascii_bracketed depth (by decide) (by decide)
    intro member there
    obtain ⟨field, inside, same⟩ := List.mem_map.mp there
    rw [← same]
    apply (ascii_string field.1).append
    apply Ascii.cons (by decide)
    apply Ascii.cons (by decide)
    exact ih field inside (depth + 1)

end OverflowScan.Json
