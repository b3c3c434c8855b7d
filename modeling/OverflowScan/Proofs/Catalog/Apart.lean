import OverflowScan.Proofs.Catalog.Spelling

set_option autoImplicit false

namespace OverflowScan

namespace CharClass

variable {c : Char}

theorem isWord_of_identifier (letter : identifier.holds c) : Text.isWord c := by
  simp only [holds] at letter
  simp [Text.isWord, letter]

private theorem toNat_between {lower upper : Char} (above : lower.val ≤ c.val)
    (below : c.val ≤ upper.val) (first : 0x30 ≤ lower.toNat) (last : upper.toNat ≤ 0x7A) :
    0x30 ≤ c.toNat ∧ c.toNat ≤ 0x7A :=
  ⟨Nat.le_trans first (UInt32.le_iff_toNat_le.mp above),
    Nat.le_trans (UInt32.le_iff_toNat_le.mp below) last⟩

theorem toNat_of_identifier (letter : identifier.holds c) : 0x30 ≤ c.toNat ∧ c.toNat ≤ 0x7A := by
  simp only [holds, Bool.or_eq_true, beq_iff_eq] at letter
  rcases letter with letter | rfl
  · rcases Bool.or_eq_true_iff.mp letter with letter | digit
    · rcases Bool.or_eq_true_iff.mp letter with upper | lower
      · obtain ⟨above, below⟩ := of_decide_eq_true upper
        exact toNat_between above below (by decide) (by decide)
      · obtain ⟨above, below⟩ := Bool.and_eq_true_iff.mp lower
        exact toNat_between (of_decide_eq_true above) (of_decide_eq_true below) (by decide)
          (by decide)
    · obtain ⟨above, below⟩ := Bool.and_eq_true_iff.mp digit
      exact toNat_between (of_decide_eq_true above) (of_decide_eq_true below) (by decide)
        (by decide)
  · decide

theorem not_isBlank_of_identifier (letter : identifier.holds c) : ¬ Text.isBlank c := by
  have range := toNat_of_identifier letter
  simp only [Text.isBlank, Text.blankRanges, Text.CodeRanges.contains, List.any_cons, List.any_nil,
    Bool.or_eq_true, Bool.and_eq_true, decide_eq_true_eq, Bool.false_eq_true, or_false]
  omega

end CharClass

namespace Text

variable {text word : List Char} {start index : Nat}

/-- In front of a word character, a word edge is a place that no word character precedes. -/
theorem wordEdge_iff (opens : text[start]?.any isWord) :
    WordEdge text start ↔ ¬ (before? text start).any isWord := by
  rw [WordEdge, opens, ne_eq, Bool.not_eq_true, Bool.eq_false_iff]

theorem isWord_at (letter : text[index]?.any CharClass.identifier.holds) :
    text[index]?.any isWord :=
  any_imp (fun _ => CharClass.isWord_of_identifier) letter

theorem not_isBlank_at (letter : text[index]?.any CharClass.identifier.holds) :
    ¬ text[index]?.any isBlank := by
  obtain ⟨c, lookup, holds⟩ := (Option.any_eq_true _ text[index]?).mp letter
  rw [lookup]
  exact CharClass.not_isBlank_of_identifier holds

end Text

namespace Catalog

variable {text : List Char} {start first : Nat}

/-- Words that can be told apart where they stand: each opens with a letter, none starts inside
another one, and none is the beginning of another one. -/
structure Keywords (words : List (List Char)) : Prop where
  opens : ∀ word ∈ words, word.head?.any CharClass.identifier.holds
  solid : ∀ word ∈ words, ∀ other ∈ words, ∀ index < word.length, 0 < index →
    (Text.before? word index).any Text.isWord ∨ word[index]? ≠ other.head?
  free : ∀ word ∈ words, ∀ other ∈ words, word <+: other → word = other

theorem keywords_unsafeNames : Keywords unsafeNames := ⟨by decide, by decide, by decide⟩

theorem keywords_standardCopy : Keywords ["std::copy".toList] := ⟨by decide, by decide, by decide⟩

section

variable {words : List (List Char)} {word other : List Char} {paren close : Nat}

theorem Keywords.head (keywords : Keywords words) (listed : word ∈ words)
    (stands : word <+: text.drop start) :
    text[start]? = word.head? ∧ text[start]?.any CharClass.identifier.holds := by
  have opens := keywords.opens word listed
  have nonempty : word ≠ [] := by
    intro empty
    subst word
    simp at opens
  have here := Text.getElem?_eq_head? stands nonempty
  exact ⟨here, here ▸ opens⟩

namespace CallParts

theorem blank_ended (parts : CallParts text start word paren) :
    ¬ text[paren]?.any Text.isBlank := by
  rw [parts.opened]
  decide

theorem unique (keywords : Keywords words) (listed : word ∈ words) (known : other ∈ words)
    (parts : CallParts text start word paren) (again : CallParts text start other close) :
    word = other ∧ paren = close := by
  have same : word = other := by
    rcases List.prefix_or_prefix_of_prefix parts.keyword again.keyword with shorter | longer
    · exact keywords.free word listed other known shorter
    · exact (keywords.free other known word listed longer).symm
  subst other
  exact ⟨rfl, parts.blank.unique again.blank parts.blank_ended again.blank_ended⟩

/-- A later call starts after the parenthesis of an earlier one. -/
theorem apart (keywords : Keywords words) (listed : word ∈ words) (known : other ∈ words)
    (parts : CallParts text start word paren) (again : CallParts text first other close)
    (order : start < first) : paren < first := by
  obtain ⟨head, opens⟩ := keywords.head known again.keyword
  have free := (Text.wordEdge_iff (Text.isWord_at opens)).mp again.edge
  have blank := parts.blank.outside (Text.not_isBlank_at opens)
  have notParen : first ≠ paren := by
    intro same
    rw [same, parts.opened] at opens
    exact absurd opens (by decide)
  -- A start inside the word itself would have a word character before it or be no keyword's head.
  have beyond : start + word.length ≤ first := by
    refine Nat.le_of_not_lt fun inside => ?_
    obtain ⟨index, rfl⟩ := Nat.exists_eq_add_of_lt order
    rw [Nat.add_assoc] at free head inside
    rcases keywords.solid word listed other known (index + 1) (by omega) (by omega) with
      joined | differs
    · rw [Text.before?_of_prefix parts.keyword (by omega) (by omega)] at free
      exact free joined
    · rw [← Text.getElem?_of_prefix parts.keyword (by omega)] at differs
      exact differs head
  omega

end CallParts

end

namespace BufferParts

variable {gapStop nameStop bracket digitStop : Nat} {gapStop' nameStop' bracket' digitStop' : Nat}

theorem opens (parts : BufferParts text start gapStop nameStop bracket digitStop) :
    text[start]? = some 'c' :=
  Text.getElem?_eq_head? parts.keyword (by decide)

theorem gap_ended (parts : BufferParts text start gapStop nameStop bracket digitStop) :
    ¬ text[gapStop]?.any Text.isBlank :=
  Text.not_isBlank_at (parts.named.2.2 gapStop (Nat.le_refl gapStop) parts.named.1)

theorem blank_ended (parts : BufferParts text start gapStop nameStop bracket digitStop) :
    ¬ text[bracket]?.any Text.isBlank := by
  rw [parts.opened]
  decide

theorem digits_ended (parts : BufferParts text start gapStop nameStop bracket digitStop) :
    ¬ text[digitStop]?.any Char.isDigit := by
  rw [parts.closed]
  decide

theorem name_ended (parts : BufferParts text start gapStop nameStop bracket digitStop) :
    ¬ text[nameStop]?.any CharClass.identifier.holds := by
  rcases Nat.eq_or_lt_of_le parts.blank.1 with rfl | more
  · rw [parts.opened]
    decide
  · have blank := parts.blank.2 nameStop (Nat.le_refl nameStop) more
    exact fun letter => Text.not_isBlank_at letter blank

theorem unique (parts : BufferParts text start gapStop nameStop bracket digitStop)
    (again : BufferParts text start gapStop' nameStop' bracket' digitStop') :
    digitStop = digitStop' := by
  obtain rfl := parts.gap.2.unique again.gap.2 parts.gap_ended again.gap_ended
  obtain rfl := parts.named.2.unique again.named.2 parts.name_ended again.name_ended
  obtain rfl := parts.blank.unique again.blank parts.blank_ended again.blank_ended
  exact parts.digits.2.unique again.digits.2 parts.digits_ended again.digits_ended

/-- No declaration starts at the name of another one, even if that name is the keyword: what follows
a name is a bracket, what follows the keyword is a name. -/
theorem not_at_name (parts : BufferParts text start gapStop nameStop bracket digitStop) :
    ¬ BufferParts text gapStop gapStop' nameStop' bracket' digitStop' := by
  intro again
  have keyword : Text.Run CharClass.identifier.holds text gapStop (gapStop + 4) :=
    Text.Run.of_prefix again.keyword (by decide)
  have ended : ¬ text[gapStop + 4]?.any CharClass.identifier.holds := fun letter =>
    Text.not_isBlank_at letter (again.gap.2.2 (gapStop + 4) (Nat.le_refl _) again.gap.1)
  obtain rfl := parts.named.2.unique keyword parts.name_ended ended
  obtain rfl := parts.blank.unique again.gap.2 parts.blank_ended again.gap_ended
  have letter := again.named.2.2 bracket (Nat.le_refl bracket) again.named.1
  rw [parts.opened] at letter
  exact absurd letter (by decide)

theorem apart (parts : BufferParts text start gapStop nameStop bracket digitStop)
    (again : BufferParts text first gapStop' nameStop' bracket' digitStop')
    (order : start < first) : digitStop < first := by
  obtain ⟨previous, rfl⟩ := Nat.exists_eq_add_of_lt order
  have letter := again.opens
  have free := (Text.wordEdge_iff (by rw [letter]; decide)).mp again.edge
  have keyword : start + previous < start ∨ start + 4 ≤ start + previous :=
    (Text.Run.of_prefix parts.keyword (by decide)).outside free
  have gap := parts.gap.2.outside (by rw [letter]; decide)
  have named := (parts.named.2.imp fun _ => CharClass.isWord_of_identifier).outside free
  have blank := parts.blank.outside (by rw [letter]; decide)
  have digits := parts.digits.2.outside (by rw [letter]; decide)
  have notOpened : start + previous + 1 ≠ bracket := by
    rintro rfl
    exact absurd (letter.symm.trans parts.opened) (by decide)
  have notClosed : start + previous + 1 ≠ digitStop := by
    rintro rfl
    exact absurd (letter.symm.trans parts.closed) (by decide)
  have notNamed : start + previous + 1 ≠ gapStop := by
    rintro rfl
    exact parts.not_at_name again
  omega

end BufferParts

end Catalog

end OverflowScan
