import OverflowScan.Proofs.Pattern.Locality

set_option autoImplicit false

namespace OverflowScan

theorem Text.append_prefix_drop (text front back : List Char) (start : Nat) :
    front ++ back <+: text.drop start ↔
      front <+: text.drop start ∧ back <+: text.drop (start + front.length) := by
  constructor
  · rintro ⟨rest, split⟩
    rw [List.append_assoc] at split
    refine ⟨⟨_, split⟩, rest, ?_⟩
    rw [drop_add_length split.symm]
  · rintro ⟨⟨_, split⟩, rest, again⟩
    refine ⟨rest, ?_⟩
    rw [List.append_assoc, again, drop_add_length split.symm, split]

def Text.IsGap (word : List Char) : Prop := ∀ c ∈ word, isBlank c

namespace Pattern

/-- The words that a pattern without word edges takes. -/
def Accepts : Pattern → List Char → Prop
  | .boundary, _ => False
  | .exactly text, word => word = text
  | .one cls, word => ∃ c, cls.holds c ∧ word = [c]
  | .many cls, word => ∀ c ∈ word, cls.holds c
  | .seq first second, word =>
    ∃ front back, first.Accepts front ∧ second.Accepts back ∧ word = front ++ back
  | .either first second, word => first.Accepts word ∨ second.Accepts word
  | .optional body, word => body.Accepts word ∨ word = []
  | .group _ body, word => body.Accepts word

theorem accepts_atLeastOne {cls : CharClass} {word : List Char} :
    (atLeastOne cls).Accepts word ↔ word ≠ [] ∧ ∀ c ∈ word, cls.holds c := by
  constructor
  · rintro ⟨_, rest, ⟨c, first, rfl⟩, others, rfl⟩
    exact ⟨List.cons_ne_nil c rest, List.forall_mem_cons.mpr ⟨first, others⟩⟩
  · rintro ⟨filled, all⟩
    obtain ⟨c, rest, rfl⟩ := List.exists_cons_of_ne_nil filled
    obtain ⟨first, others⟩ := List.forall_mem_cons.mp all
    exact ⟨[c], rest, ⟨c, first, rfl⟩, others, rfl⟩

theorem accepts_singleton {cls : CharClass} {c : Char} (holds : cls.holds c) :
    (atLeastOne cls).Accepts [c] :=
  accepts_atLeastOne.mpr ⟨List.cons_ne_nil c [], List.forall_mem_singleton.mpr holds⟩

theorem accepts_words {word : List Char} (first : List Char) (more : List (List Char)) :
    (choice (exactly first) (more.map exactly)).Accepts word ↔ word ∈ first :: more := by
  induction more generalizing first with
  | nil => simp [choice, Accepts]
  | cons next more ih =>
      rw [List.map_cons, choice, Accepts, ih next]
      simp [Accepts]

/-- What a pattern without word edges spells is one of its words, standing there. -/
theorem spells_iff_accepts {pattern : Pattern} (plain : pattern.hasBoundary = false)
    (text : List Char) (start stop : Nat) :
    pattern.Spells text start stop ↔
      ∃ word, pattern.Accepts word ∧ word <+: text.drop start ∧ stop = start + word.length := by
  induction pattern generalizing start stop with
  | boundary => cases plain
  | exactly word => simp [Spells, Accepts, and_comm]
  | one cls =>
      simp only [Spells, Accepts, Option.any_eq_true]
      constructor
      · rintro ⟨rfl, c, here, holds⟩
        exact ⟨[c], ⟨c, holds, rfl⟩, (Text.singleton_prefix_drop text c start).mpr here, rfl⟩
      · rintro ⟨_, ⟨c, holds, rfl⟩, stands, rfl⟩
        exact ⟨rfl, c, (Text.singleton_prefix_drop text c start).mp stands, holds⟩
  | many cls =>
      constructor
      · intro (run : Text.Run cls.holds text start stop)
        refine ⟨Text.slice text start stop, run.forall_mem, Text.slice_prefix_drop text _ _, ?_⟩
        rw [run.length_slice, Nat.add_sub_cancel' run.1]
      · rintro ⟨word, all, stands, rfl⟩
        exact Text.Run.of_prefix stands (List.all_eq_true.mpr all)
  | seq first second ihFirst ihSecond =>
      obtain ⟨plainFirst, plainSecond⟩ := Bool.or_eq_false_iff.mp plain
      simp only [Spells, Accepts, ihFirst plainFirst, ihSecond plainSecond]
      constructor
      · rintro ⟨_, ⟨front, before, standsFront, rfl⟩, back, after, standsBack, rfl⟩
        refine ⟨front ++ back, ⟨front, back, before, after, rfl⟩, ?_, ?_⟩
        · exact (Text.append_prefix_drop text front back start).mpr ⟨standsFront, standsBack⟩
        · rw [List.length_append, Nat.add_assoc]
      · rintro ⟨_, ⟨front, back, before, after, rfl⟩, stands, rfl⟩
        obtain ⟨standsFront, standsBack⟩ :=
          (Text.append_prefix_drop text front back start).mp stands
        refine ⟨_, ⟨front, before, standsFront, rfl⟩, back, after, standsBack, ?_⟩
        rw [List.length_append, Nat.add_assoc]
  | either first second ihFirst ihSecond =>
      obtain ⟨plainFirst, plainSecond⟩ := Bool.or_eq_false_iff.mp plain
      simp only [Spells, Accepts, ihFirst plainFirst, ihSecond plainSecond, or_and_right, exists_or]
  | optional body ih =>
      simp only [Spells, Accepts, ih plain, or_and_right, exists_or]
      simp
  | group index body ih => exact ih plain start stop

/-- A pattern without word edges occurs in a text if one of its words is a part of the text. -/
theorem occursIn_iff_infix {pattern : Pattern} (plain : pattern.hasBoundary = false)
    (filled : 0 < pattern.minLength) (text : List Char) :
    pattern.occursIn text ↔ ∃ word, pattern.Accepts word ∧ word <:+: text := by
  rw [occursIn_iff pattern text filled]
  simp only [spells_iff_accepts plain]
  constructor
  · rintro ⟨start, _, word, accepted, stands, -⟩
    exact ⟨word, accepted, stands.isInfix.trans (List.drop_suffix start text).isInfix⟩
  · rintro ⟨word, accepted, front, back, rfl⟩
    refine ⟨front.length, _, word, accepted, ⟨back, ?_⟩, rfl⟩
    rw [List.append_assoc, List.drop_left]

end Pattern

end OverflowScan
