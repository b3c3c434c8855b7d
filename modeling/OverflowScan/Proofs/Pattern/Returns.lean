import OverflowScan.Proofs.Pattern.Extension
import OverflowScan.Proofs.Text.Returns

set_option autoImplicit false

/- Matching with a carriage return in front of every line feed. The outcomes in the changed text
that stop at a place are those in the text, each at its place (`mem_outcomes_crlf`), if the pattern
tells nothing apart by the line ending: its words hold no line ending, its classes hold both
characters of one or neither, and its pieces do not meet between the two. The simulation goes on to
searches of patterns whose matches do not start or stop there either. -/
namespace OverflowScan

open Text (crlf crlfOffset)

def crlfGroups (groups : List (Nat × List Char)) : List (Nat × List Char) :=
  groups.map fun entry => (entry.1, crlf entry.2)

theorem crlfGroups_append (later earlier : List (Nat × List Char)) :
    crlfGroups (later ++ earlier) = crlfGroups later ++ crlfGroups earlier :=
  List.map_append

def Match.crlf (text : List Char) (m : Match) : Match :=
  ⟨crlfOffset text m.start, crlfOffset text m.stop, Text.crlf m.text, crlfGroups m.groups⟩

theorem lookup_crlfGroups (groups : List (Nat × List Char)) (index : Nat) :
    (crlfGroups groups).lookup index = (groups.lookup index).map Text.crlf := by
  induction groups with
  | nil => rfl
  | cons entry rest ih =>
      rw [crlfGroups, List.map_cons, List.lookup_cons, List.lookup_cons]
      cases index == entry.1 with
      | true => rfl
      | false => exact ih

theorem Match.getD_group?_crlf (text : List Char) (m : Match) (index : Nat) :
    ((m.crlf text).group? index).getD [] = Text.crlf ((m.group? index).getD []) := by
  rw [group?, crlf, lookup_crlfGroups, group?]
  cases m.groups.lookup index <;> rfl

namespace Pattern

/-- Whether two pieces that follow each other never meet inside a line ending. -/
def meetOutside (first second : Pattern) : Bool :=
  !first.mayClose '\r' || (0 < second.minLength && !second.mayOpen '\n')

/-- Whether two pieces are at least one character of a class that holds both characters of a line
ending or neither. -/
def isEvenRun : Pattern → Pattern → Bool
  | .one cls, .many more => cls = more && cls.holds '\n' == cls.holds '\r'
  | _, _ => false

def ignoresReturns : Pattern → Bool
  | .boundary => true
  | .exactly word => !word.contains '\n' && !word.contains '\r'
  | .one cls => !cls.holds '\n'
  | .many cls => cls.holds '\n' == cls.holds '\r'
  | .seq first second =>
    isEvenRun first second ||
      (first.ignoresReturns && second.ignoresReturns && meetOutside first second)
  | .either first second => first.ignoresReturns && second.ignoresReturns
  | .optional body | .group _ body => body.ignoresReturns

variable {pattern first second : Pattern} {text : List Char} {start stop place : Nat}
  {groups : List (Nat × List Char)}

theorem isEvenRun_iff : isEvenRun first second ↔
    ∃ cls, first = .one cls ∧ second = .many cls ∧ cls.holds '\n' = cls.holds '\r' := by
  constructor
  · intro even
    unfold isEvenRun at even
    split at even
    next cls more =>
      rw [Bool.and_eq_true, decide_eq_true_iff, beq_iff_eq] at even
      exact ⟨cls, rfl, by rw [even.1], even.2⟩
    next => exact absurd even Bool.false_ne_true
  · rintro ⟨cls, rfl, rfl, alike⟩
    simp [isEvenRun, alike]

theorem Spells.exists_stop (spelled : pattern.Spells (crlf text) (crlfOffset text start) place)
    (closes : pattern.mayClose '\r' = false) : ∃ stop, place = crlfOffset text stop := by
  rcases Nat.eq_or_lt_of_le spelled.le with same | filled
  · exact ⟨start, same.symm⟩
  · refine Text.exists_crlfOffset_of_before? fun last => ?_
    exact absurd (spelled.mayClose filled last) (by simp [closes])

theorem Spells.exists_start (spelled : pattern.Spells (crlf text) place stop)
    (filled : 0 < pattern.minLength) (opens : pattern.mayOpen '\n' = false) :
    ∃ start, place = crlfOffset text start := by
  have consumes := spelled.add_minLength_le
  refine Text.exists_crlfOffset fun feed => ?_
  exact absurd (spelled.mayOpen (by omega) feed) (by simp [opens])

theorem exists_middle (meet : meetOutside first second)
    (before : first.Spells (crlf text) (crlfOffset text start) place)
    (after : second.Spells (crlf text) place stop) : ∃ middle, place = crlfOffset text middle := by
  simp only [meetOutside, Bool.or_eq_true, Bool.and_eq_true, Bool.not_eq_true', decide_eq_true_iff]
    at meet
  rcases meet with closes | ⟨filled, opens⟩
  · exact before.exists_stop closes
  · exact after.exists_start filled opens

private theorem mem_outcomes_crlf_of_silent (silent : pattern.groupNumbers = [])
    (spells : pattern.Spells (crlf text) (crlfOffset text start) (crlfOffset text stop) ↔
      pattern.Spells text start stop) :
    (crlfOffset text stop, groups) ∈ pattern.outcomes (crlf text) (crlfOffset text start) ↔
      ∃ passed, (stop, passed) ∈ pattern.outcomes text start ∧ groups = crlfGroups passed := by
  simp only [mem_outcomes_silent silent, spells]
  constructor
  · rintro ⟨spelled, rfl⟩
    exact ⟨[], ⟨spelled, rfl⟩, rfl⟩
  · rintro ⟨_, ⟨spelled, rfl⟩, rfl⟩
    exact ⟨spelled, rfl⟩

theorem spells_exactly_crlf {word : List Char} (feed : '\n' ∉ word) (ret : '\r' ∉ word) :
    (exactly word).Spells (crlf text) (crlfOffset text start) (crlfOffset text stop) ↔
      (exactly word).Spells text start stop := by
  rw [Spells, Spells, Text.drop_crlf, Text.prefix_crlf_iff feed ret]
  refine and_congr_left fun stands => ?_
  rw [← Text.crlfOffset_add_length feed stands, Text.crlfOffset_inj]

theorem spells_one_crlf {cls : CharClass} (feedless : cls.holds '\n' = false) :
    (one cls).Spells (crlf text) (crlfOffset text start) (crlfOffset text stop) ↔
      (one cls).Spells text start stop := by
  rw [Spells, Spells]
  by_cases feed : text[start]? = some '\n'
  · -- The place behind the carriage return is no place of an offset.
    have apart : crlfOffset text stop ≠ crlfOffset text start + 1 := by
      intro same
      have := (Text.getElem?_crlf_feed feed).2
      rw [← same] at this
      exact Text.getElem?_crlf_ne_feed text stop this
    simp [apart, feed, feedless]
  · rw [← Text.crlfOffset_succ feed, Text.crlfOffset_inj, Text.getElem?_crlf feed]

theorem spells_atLeastOne_crlf {cls : CharClass} (alike : cls.holds '\n' = cls.holds '\r') :
    (atLeastOne cls).Spells (crlf text) (crlfOffset text start) (crlfOffset text stop) ↔
      (atLeastOne cls).Spells text start stop := by
  rw [spells_atLeastOne, spells_atLeastOne, Text.Run.crlf_iff alike, Text.crlfOffset_lt_iff]

theorem mem_outcomes_crlf (blind : pattern.ignoresReturns) :
    (crlfOffset text stop, groups) ∈ pattern.outcomes (crlf text) (crlfOffset text start) ↔
      ∃ passed, (stop, passed) ∈ pattern.outcomes text start ∧ groups = crlfGroups passed := by
  induction pattern generalizing start stop groups with
  | boundary =>
      refine mem_outcomes_crlf_of_silent rfl ?_
      rw [Spells, Spells, Text.crlfOffset_inj, Text.wordEdge_crlf]
  | exactly word =>
      refine mem_outcomes_crlf_of_silent rfl (spells_exactly_crlf ?_ ?_)
      all_goals simp_all [ignoresReturns]
  | one cls =>
      refine mem_outcomes_crlf_of_silent rfl (spells_one_crlf ?_)
      simpa [ignoresReturns] using blind
  | many cls =>
      refine mem_outcomes_crlf_of_silent rfl (Text.Run.crlf_iff ?_)
      simpa [ignoresReturns] using blind
  | seq first second ihFirst ihSecond =>
      rw [ignoresReturns, Bool.or_eq_true, Bool.and_eq_true, Bool.and_eq_true, isEvenRun_iff]
        at blind
      -- one character and then any number may meet inside a line ending, so it counts as a whole
      rcases blind with ⟨cls, rfl, rfl, alike⟩ | ⟨⟨blindFirst, blindSecond⟩, meet⟩
      · exact mem_outcomes_crlf_of_silent rfl (spells_atLeastOne_crlf alike)
      · simp only [mem_outcomes_seq]
        constructor
        · rintro ⟨_, _, _, left, right, rfl⟩
          obtain ⟨middle, rfl⟩ := exists_middle meet (Spells.of_mem left) (Spells.of_mem right)
          obtain ⟨passed, before, rfl⟩ := (ihFirst blindFirst).mp left
          obtain ⟨more, after, rfl⟩ := (ihSecond blindSecond).mp right
          exact ⟨more ++ passed, ⟨middle, passed, more, before, after, rfl⟩,
            (crlfGroups_append more passed).symm⟩
        · rintro ⟨_, ⟨middle, passed, more, before, after, rfl⟩, rfl⟩
          exact ⟨_, _, _, (ihFirst blindFirst).mpr ⟨passed, before, rfl⟩,
            (ihSecond blindSecond).mpr ⟨more, after, rfl⟩, crlfGroups_append more passed⟩
  | either first second ihFirst ihSecond =>
      rw [ignoresReturns, Bool.and_eq_true] at blind
      simp only [mem_outcomes_either, ihFirst blind.1, ihSecond blind.2, or_and_right, exists_or]
  | optional body ih =>
      simp only [mem_outcomes_optional, ih blind, or_and_right, exists_or, Text.crlfOffset_inj]
      refine or_congr_right ⟨?_, ?_⟩
      · rintro ⟨same, rfl⟩
        exact ⟨[], ⟨same, rfl⟩, rfl⟩
      · rintro ⟨_, ⟨same, rfl⟩, rfl⟩
        exact ⟨same, rfl⟩
  | group index body ih =>
      simp only [mem_outcomes_group]
      constructor
      · rintro ⟨_, changed, rfl⟩
        obtain ⟨inner, inside, rfl⟩ := (ih blind).mp changed
        refine ⟨_, ⟨inner, inside, rfl⟩, ?_⟩
        rw [Text.slice_crlf text (Spells.of_mem inside).le]
        rfl
      · rintro ⟨_, ⟨inner, inside, rfl⟩, rfl⟩
        refine ⟨_, (ih blind).mpr ⟨inner, inside, rfl⟩, ?_⟩
        rw [Text.slice_crlf text (Spells.of_mem inside).le]
        rfl

/-- A pattern that tells nothing apart by the line ending and has no match that starts or stops
inside one. -/
structure OverlooksReturns (pattern : Pattern) : Prop where
  filled : 0 < pattern.minLength
  blind : pattern.ignoresReturns
  opens : pattern.mayOpen '\n' = false
  closes : pattern.mayClose '\r' = false

namespace OverlooksReturns

theorem spells_crlf (overlooks : OverlooksReturns pattern) :
    pattern.Spells (crlf text) (crlfOffset text start) (crlfOffset text stop) ↔
      pattern.Spells text start stop := by
  rw [← exists_mem_outcomes_iff, ← exists_mem_outcomes_iff]
  simp only [mem_outcomes_crlf overlooks.blind]
  constructor
  · rintro ⟨_, passed, found, -⟩
    exact ⟨passed, found⟩
  · rintro ⟨passed, found⟩
    exact ⟨_, passed, found, rfl⟩

theorem occursIn_crlf (overlooks : OverlooksReturns pattern) (text : List Char) :
    pattern.occursIn (crlf text) = pattern.occursIn text := by
  rw [Bool.eq_iff_iff, occursIn_iff pattern _ overlooks.filled,
    occursIn_iff pattern _ overlooks.filled]
  constructor
  · rintro ⟨first, last, spelled⟩
    obtain ⟨start, rfl⟩ := spelled.exists_start overlooks.filled overlooks.opens
    obtain ⟨stop, rfl⟩ := spelled.exists_stop overlooks.closes
    exact ⟨start, stop, overlooks.spells_crlf.mp spelled⟩
  · rintro ⟨start, stop, spelled⟩
    exact ⟨_, _, overlooks.spells_crlf.mpr spelled⟩

theorem outcomes_crlf_eq_nil (overlooks : OverlooksReturns pattern)
    (none : pattern.outcomes text start = []) :
    pattern.outcomes (crlf text) (crlfOffset text start) = [] := by
  refine outcomes_eq_nil_iff.mpr fun place spelled => ?_
  obtain ⟨stop, rfl⟩ := spelled.exists_stop overlooks.closes
  exact outcomes_eq_nil_iff.mp none stop (overlooks.spells_crlf.mp spelled)

/-- Where no match starts, the search moves on to the next place, over a line ending as well. -/
theorem occurrences_crlf_succ (overlooks : OverlooksReturns pattern)
    (inside : start < text.length) (none : pattern.outcomes text start = []) :
    pattern.occurrences (crlf text) (crlfOffset text start) =
      pattern.occurrences (crlf text) (crlfOffset text (start + 1)) := by
  have bound := Text.crlfOffset_lt_length inside
  have absent := overlooks.outcomes_crlf_eq_nil none
  by_cases feed : text[start]? = some '\n'
  · have next := (Text.getElem?_crlf_feed feed).2
    have between : pattern.outcomes (crlf text) (crlfOffset text start + 1) = [] := by
      refine outcomes_eq_nil_iff.mpr fun place spelled => ?_
      have consumes := spelled.add_minLength_le
      have filled := overlooks.filled
      exact absurd (spelled.mayOpen (by omega) next) (by simp [overlooks.opens])
    rw [Text.crlfOffset_succ_feed feed, occurrences_of_outcomes_nil pattern _ _ bound absent,
      occurrences_of_outcomes_nil pattern _ _ (List.getElem?_eq_some_iff.mp next).1 between]
  · rw [Text.crlfOffset_succ feed, occurrences_of_outcomes_nil pattern _ _ bound absent]

theorem occurrences_crlf (overlooks : OverlooksReturns pattern) (steady : Steady pattern)
    (text : List Char) (start : Nat) :
    pattern.occurrences (crlf text) (crlfOffset text start) =
      (pattern.occurrences text start).map (Match.crlf text) := by
  refine occurrences_induction
    (motive := fun start found => pattern.occurrences (crlf text) (crlfOffset text start) =
      found.map (Match.crlf text)) overlooks.filled ?_ ?_ ?_ start
  · intro start beyond
    exact occurrences_of_length_le pattern _ _ (Text.length_crlf_le beyond)
  · intro start found inside none rest
    rw [overlooks.occurrences_crlf_succ inside none, rest]
  · intro start outcome more found inside trial consumes rest
    obtain ⟨others, taken⟩ := steady.outcomes_eq_cons
      ((mem_outcomes_crlf overlooks.blind).mpr ⟨outcome.2, mem_of_outcomes_cons trial, rfl⟩)
    rw [occurrences_of_outcomes_cons pattern _ _ _ _ (Text.crlfOffset_lt_length inside) taken
      (Text.crlfOffset_lt consumes), rest, List.map_cons]
    simp only [Match.ofOutcome, Match.crlf, Text.slice_crlf text (Nat.le_of_lt consumes)]

theorem findAll_crlf (overlooks : OverlooksReturns pattern) (steady : Steady pattern)
    (text : List Char) :
    pattern.findAll (crlf text) = (pattern.findAll text).map (Match.crlf text) :=
  overlooks.occurrences_crlf steady text 0

end OverlooksReturns

end Pattern

end OverflowScan
