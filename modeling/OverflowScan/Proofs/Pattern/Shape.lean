import OverflowScan.Proofs.Pattern.Outcomes

set_option autoImplicit false

namespace OverflowScan.Pattern

/-- A length that no match falls short of. -/
def minLength : Pattern → Nat
  | .boundary | .many _ | .optional _ => 0
  | .exactly word => word.length
  | .one _ => 1
  | .seq first second => first.minLength + second.minLength
  | .either first second => min first.minLength second.minLength
  | .group _ body => body.minLength

/-- The words of which one opens every match. A boundary in front of a pattern is passed over. -/
def openings : Pattern → List (List Char)
  | .exactly word => [word]
  | .seq .boundary second => second.openings
  | .seq first _ => first.openings
  | .either first second => first.openings ++ second.openings
  | .group _ body => body.openings
  | .boundary | .one _ | .many _ | .optional _ => [[]]

def mayOpen (c : Char) : Pattern → Bool
  | .boundary => false
  | .exactly word => word.head? == some c
  | .one cls | .many cls => cls.holds c
  | .seq first second => first.mayOpen c || (first.minLength == 0 && second.mayOpen c)
  | .either first second => first.mayOpen c || second.mayOpen c
  | .optional body | .group _ body => body.mayOpen c

def mayClose (c : Char) : Pattern → Bool
  | .boundary => false
  | .exactly word => word.getLast? == some c
  | .one cls | .many cls => cls.holds c
  | .seq first second => second.mayClose c || (second.minLength == 0 && first.mayClose c)
  | .either first second => first.mayClose c || second.mayClose c
  | .optional body | .group _ body => body.mayClose c

def groupNumbers : Pattern → List Nat
  | .boundary | .exactly _ | .one _ | .many _ => []
  | .seq first second | .either first second => first.groupNumbers ++ second.groupNumbers
  | .optional body => body.groupNumbers
  | .group index body => index :: body.groupNumbers

variable {pattern : Pattern} {text : List Char} {start stop : Nat}
  {groups : List (Nat × List Char)}

theorem Spells.of_mem (found : (stop, groups) ∈ pattern.outcomes text start) :
    pattern.Spells text start stop :=
  (exists_mem_outcomes_iff pattern text start stop).mp ⟨groups, found⟩

theorem Spells.add_minLength_le (spelled : pattern.Spells text start stop) :
    start + pattern.minLength ≤ stop := by
  induction pattern generalizing start stop with
  | boundary | exactly | one =>
      simp only [Spells, minLength] at *
      omega
  | many cls => exact spelled.1
  | seq first second ihFirst ihSecond =>
      obtain ⟨middle, before, after⟩ := spelled
      have left := ihFirst before
      have right := ihSecond after
      simp only [minLength]
      omega
  | either first second ihFirst ihSecond =>
      simp only [minLength]
      rcases spelled with left | right
      · have := ihFirst left; omega
      · have := ihSecond right; omega
  | optional body ih =>
      simp only [minLength]
      rcases spelled with inner | rfl
      · have := ih inner; omega
      · omega
  | group index body ih => exact ih spelled

theorem Spells.le (spelled : pattern.Spells text start stop) : start ≤ stop := by
  have := spelled.add_minLength_le
  omega

theorem Spells.le_max_length (spelled : pattern.Spells text start stop) :
    stop ≤ max start text.length := by
  induction pattern generalizing start stop with
  | boundary =>
      obtain ⟨rfl, -⟩ := spelled
      exact Nat.le_max_left _ _
  | exactly word =>
      obtain ⟨rfl, stands⟩ := spelled
      have := stands.length_le
      rw [List.length_drop] at this
      omega
  | one cls =>
      obtain ⟨rfl, found⟩ := spelled
      have := Text.lt_length_of_any found
      omega
  | many cls => exact Text.Run.le_max_length spelled
  | seq first second ihFirst ihSecond =>
      obtain ⟨middle, before, after⟩ := spelled
      have left := ihFirst before
      have right := ihSecond after
      omega
  | either first second ihFirst ihSecond =>
      rcases spelled with left | right
      · exact ihFirst left
      · exact ihSecond right
  | optional body ih =>
      rcases spelled with inner | rfl
      · exact ih inner
      · exact Nat.le_max_left _ _
  | group index body ih => exact ih spelled

theorem openings_seq (first second : Pattern) (other : first ≠ .boundary) :
    (seq first second).openings = first.openings := by
  cases first <;> simp_all [openings]

/-- Every match opens with one of the opening words. -/
theorem Spells.opens (spelled : pattern.Spells text start stop) :
    ∃ word ∈ pattern.openings, word <+: text.drop start ∧ start + word.length ≤ stop := by
  induction pattern generalizing start stop with
  | boundary | one | many | optional =>
      exact ⟨[], by simp [openings], List.nil_prefix, spelled.le⟩
  | exactly word =>
      obtain ⟨rfl, stands⟩ := spelled
      exact ⟨word, by simp [openings], stands, Nat.le_refl _⟩
  | seq first second ihFirst ihSecond =>
      obtain ⟨middle, before, after⟩ := spelled
      by_cases edge : first = .boundary
      · subst first
        obtain ⟨rfl, -⟩ := before
        exact ihSecond after
      · obtain ⟨word, member, stands, within⟩ := ihFirst before
        have order := after.le
        exact ⟨word, by rw [openings_seq first second edge]; exact member, stands, by omega⟩
  | either first second ihFirst ihSecond =>
      simp only [openings, List.mem_append]
      rcases spelled with left | right
      · obtain ⟨word, member, stands⟩ := ihFirst left
        exact ⟨word, Or.inl member, stands⟩
      · obtain ⟨word, member, stands⟩ := ihSecond right
        exact ⟨word, Or.inr member, stands⟩
  | group index body ih => exact ih spelled

theorem Spells.mayOpen {c : Char} (spelled : pattern.Spells text start stop)
    (filled : start < stop) (first : text[start]? = some c) : pattern.mayOpen c := by
  induction pattern generalizing start stop with
  | boundary =>
      obtain ⟨rfl, -⟩ := spelled
      omega
  | exactly word =>
      obtain ⟨rfl, stands⟩ := spelled
      have nonempty : word ≠ [] := List.ne_nil_of_length_pos (by omega)
      rw [Text.getElem?_eq_head? stands nonempty] at first
      simp [Pattern.mayOpen, first]
  | one cls =>
      have holds := spelled.2
      rwa [first, Option.any_some] at holds
  | many cls =>
      have holds := spelled.2 start (Nat.le_refl start) filled
      rwa [first, Option.any_some] at holds
  | seq head tail ihHead ihTail =>
      obtain ⟨middle, before, after⟩ := spelled
      have order := before.add_minLength_le
      simp only [Pattern.mayOpen, Bool.or_eq_true, Bool.and_eq_true, beq_iff_eq]
      by_cases moved : start < middle
      · exact Or.inl (ihHead before moved first)
      · obtain rfl : start = middle := by omega
        exact Or.inr ⟨by omega, ihTail after filled first⟩
  | either left right ihLeft ihRight =>
      simp only [Pattern.mayOpen, Bool.or_eq_true]
      exact spelled.imp (fun here => ihLeft here filled first) fun here => ihRight here filled first
  | optional body ih =>
      rcases spelled with inner | rfl
      · exact ih inner filled first
      · omega
  | group index body ih => exact ih spelled filled first

theorem Spells.mayClose {c : Char} (spelled : pattern.Spells text start stop)
    (filled : start < stop) (last : Text.before? text stop = some c) : pattern.mayClose c := by
  induction pattern generalizing start stop with
  | boundary =>
      obtain ⟨rfl, -⟩ := spelled
      omega
  | exactly word =>
      obtain ⟨rfl, stands⟩ := spelled
      rw [Text.before?_of_prefix stands (by omega) (Nat.le_refl _)] at last
      obtain ⟨init, final, rfl⟩ : ∃ init final, word = init ++ [final] := by
        rcases List.eq_nil_or_concat word with rfl | ⟨init, final, rfl⟩
        · simp at filled
        · exact ⟨init, final, List.concat_eq_append⟩
      simpa [Pattern.mayClose] using last
  | one cls =>
      obtain ⟨rfl, holds⟩ := spelled
      rw [Text.before?_succ] at last
      rwa [last, Option.any_some] at holds
  | many cls =>
      obtain ⟨previous, rfl⟩ : ∃ previous, stop = previous + 1 := ⟨stop - 1, by omega⟩
      have holds := spelled.2 previous (by omega) (by omega)
      rw [Text.before?_succ] at last
      rwa [last, Option.any_some] at holds
  | seq head tail ihHead ihTail =>
      obtain ⟨middle, before, after⟩ := spelled
      have order := after.add_minLength_le
      simp only [Pattern.mayClose, Bool.or_eq_true, Bool.and_eq_true, beq_iff_eq]
      by_cases moved : middle < stop
      · exact Or.inl (ihTail after moved last)
      · obtain rfl : middle = stop := by omega
        exact Or.inr ⟨by omega, ihHead before filled last⟩
  | either left right ihLeft ihRight =>
      simp only [Pattern.mayClose, Bool.or_eq_true]
      exact spelled.imp (fun here => ihLeft here filled last) fun here => ihRight here filled last
  | optional body ih =>
      rcases spelled with inner | rfl
      · exact ih inner filled last
      · omega
  | group index body ih => exact ih spelled filled last

/-- Every group passed has a number of the pattern, and its text lies inside the match. -/
theorem groups_inside (found : (stop, groups) ∈ pattern.outcomes text start) :
    ∀ entry ∈ groups, entry.1 ∈ pattern.groupNumbers ∧
      ∃ first last, start ≤ first ∧ first ≤ last ∧ last ≤ stop ∧
        entry.2 = Text.slice text first last := by
  induction pattern generalizing start stop groups with
  | boundary | exactly | one | many =>
      have none : groups = [] := by simp_all
      simp [none]
  | seq first second ihFirst ihSecond =>
      obtain ⟨middle, passed, more, before, after, rfl⟩ := mem_outcomes_seq.mp found
      have left := (Spells.of_mem before).le
      have right := (Spells.of_mem after).le
      intro entry member
      simp only [groupNumbers, List.mem_append]
      rcases List.mem_append.mp member with later | earlier
      · obtain ⟨number, a, b, lower, order, upper, shown⟩ := ihSecond after entry later
        exact ⟨Or.inr number, a, b, by omega, order, upper, shown⟩
      · obtain ⟨number, a, b, lower, order, upper, shown⟩ := ihFirst before entry earlier
        exact ⟨Or.inl number, a, b, lower, order, by omega, shown⟩
  | either first second ihFirst ihSecond =>
      intro entry member
      simp only [groupNumbers, List.mem_append]
      rcases mem_outcomes_either.mp found with left | right
      · obtain ⟨number, place⟩ := ihFirst left entry member
        exact ⟨Or.inl number, place⟩
      · obtain ⟨number, place⟩ := ihSecond right entry member
        exact ⟨Or.inr number, place⟩
  | optional body ih =>
      rcases mem_outcomes_optional.mp found with inner | ⟨-, rfl⟩
      · exact ih inner
      · simp
  | group index body ih =>
      obtain ⟨inner, member, rfl⟩ := mem_outcomes_group.mp found
      intro entry among
      rcases List.mem_cons.mp among with rfl | among
      · exact ⟨by simp [groupNumbers], start, stop, Nat.le_refl start, (Spells.of_mem member).le,
          Nat.le_refl stop, rfl⟩
      · obtain ⟨number, place⟩ := ih member entry among
        exact ⟨by simp [groupNumbers, number], place⟩

theorem groups_eq_nil (silent : pattern.groupNumbers = [])
    (found : (stop, groups) ∈ pattern.outcomes text start) : groups = [] := by
  refine List.eq_nil_iff_forall_not_mem.mpr fun entry member => ?_
  have number := (groups_inside found entry member).1
  rw [silent] at number
  exact List.not_mem_nil number

theorem mem_outcomes_silent (silent : pattern.groupNumbers = []) :
    (stop, groups) ∈ pattern.outcomes text start ↔
      pattern.Spells text start stop ∧ groups = [] := by
  constructor
  · intro found
    exact ⟨Spells.of_mem found, groups_eq_nil silent found⟩
  · rintro ⟨spelled, rfl⟩
    obtain ⟨passed, found⟩ := (exists_mem_outcomes_iff pattern text start stop).mpr spelled
    rwa [groups_eq_nil silent found] at found

variable {first second body : Pattern}

theorem mem_outcomes_seq_silent (silent : first.groupNumbers = []) :
    (stop, groups) ∈ (seq first second).outcomes text start ↔
      ∃ middle, first.Spells text start middle ∧ (stop, groups) ∈ second.outcomes text middle := by
  rw [mem_outcomes_seq]
  constructor
  · rintro ⟨middle, passed, more, before, after, rfl⟩
    obtain ⟨spelled, rfl⟩ := (mem_outcomes_silent silent).mp before
    exact ⟨middle, spelled, by rwa [List.append_nil]⟩
  · rintro ⟨middle, spelled, after⟩
    exact ⟨middle, [], groups, (mem_outcomes_silent silent).mpr ⟨spelled, rfl⟩, after,
      (List.append_nil groups).symm⟩

theorem mem_outcomes_seq_group {index : Nat} (silent : body.groupNumbers = []) :
    (stop, groups) ∈ (seq (group index body) second).outcomes text start ↔
      ∃ middle more, body.Spells text start middle ∧ (stop, more) ∈ second.outcomes text middle ∧
        groups = more ++ [(index, Text.slice text start middle)] := by
  rw [mem_outcomes_seq]
  constructor
  · rintro ⟨middle, passed, more, before, after, rfl⟩
    obtain ⟨inner, inside, rfl⟩ := mem_outcomes_group.mp before
    obtain ⟨spelled, rfl⟩ := (mem_outcomes_silent silent).mp inside
    exact ⟨middle, more, spelled, after, rfl⟩
  · rintro ⟨middle, more, spelled, after, rfl⟩
    have inside := (mem_outcomes_silent silent).mpr ⟨spelled, rfl⟩
    exact ⟨middle, _, more, mem_outcomes_group.mpr ⟨[], inside, rfl⟩, after, rfl⟩

theorem mem_outcomes_seq_boundary :
    (stop, groups) ∈ (seq boundary second).outcomes text start ↔
      Text.WordEdge text start ∧ (stop, groups) ∈ second.outcomes text start := by
  rw [mem_outcomes_seq_silent rfl]
  constructor
  · rintro ⟨middle, ⟨rfl, edge⟩, rest⟩
    exact ⟨edge, rest⟩
  · rintro ⟨edge, rest⟩
    exact ⟨start, ⟨rfl, edge⟩, rest⟩

theorem mem_outcomes_seq_exactly {word : List Char} :
    (stop, groups) ∈ (seq (exactly word) second).outcomes text start ↔
      word <+: text.drop start ∧ (stop, groups) ∈ second.outcomes text (start + word.length) := by
  rw [mem_outcomes_seq_silent rfl]
  constructor
  · rintro ⟨middle, ⟨rfl, stands⟩, rest⟩
    exact ⟨stands, rest⟩
  · rintro ⟨stands, rest⟩
    exact ⟨start + word.length, ⟨rfl, stands⟩, rest⟩

theorem spells_character {c : Char} :
    (exactly [c]).Spells text start stop ↔ stop = start + 1 ∧ text[start]? = some c :=
  and_congr_right' (Text.singleton_prefix_drop text c start)

theorem mem_outcomes_character {c : Char} :
    (stop, groups) ∈ (exactly [c]).outcomes text start ↔
      stop = start + 1 ∧ text[start]? = some c ∧ groups = [] := by
  rw [mem_outcomes_exactly, Text.singleton_prefix_drop]
  rfl

theorem mem_outcomes_seq_character {c : Char} :
    (stop, groups) ∈ (seq (exactly [c]) second).outcomes text start ↔
      text[start]? = some c ∧ (stop, groups) ∈ second.outcomes text (start + 1) := by
  rw [mem_outcomes_seq_exactly, Text.singleton_prefix_drop]
  rfl

theorem mem_outcomes_seq_many {cls : CharClass} :
    (stop, groups) ∈ (seq (many cls) second).outcomes text start ↔
      ∃ middle, Text.Run cls.holds text start middle ∧
        (stop, groups) ∈ second.outcomes text middle :=
  mem_outcomes_seq_silent rfl

theorem spells_atLeastOne {cls : CharClass} :
    (atLeastOne cls).Spells text start stop ↔
      start < stop ∧ Text.Run cls.holds text start stop := by
  rw [Text.Run.lt_iff]
  constructor
  · rintro ⟨middle, ⟨rfl, first⟩, rest⟩
    exact ⟨first, rest⟩
  · rintro ⟨first, rest⟩
    exact ⟨start + 1, ⟨rfl, first⟩, rest⟩

theorem spells_words (word : List Char) (more : List (List Char)) :
    (choice (exactly word) (more.map exactly)).Spells text start stop ↔
      ∃ chosen ∈ word :: more, stop = start + chosen.length ∧ chosen <+: text.drop start := by
  induction more generalizing word with
  | nil => simp [choice, Spells]
  | cons next more ih =>
      rw [List.map_cons, choice, Spells, ih next]
      simp [Spells]

theorem mem_outcomes_seq_atLeastOne {cls : CharClass} :
    (stop, groups) ∈ (seq (atLeastOne cls) second).outcomes text start ↔
      ∃ middle, (start < middle ∧ Text.Run cls.holds text start middle) ∧
        (stop, groups) ∈ second.outcomes text middle := by
  rw [mem_outcomes_seq_silent rfl]
  simp only [spells_atLeastOne]

end OverflowScan.Pattern
