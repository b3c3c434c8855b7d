import OverflowScan.Catalog
import OverflowScan.Proofs.Pattern.Search

set_option autoImplicit false

namespace OverflowScan

/-- What a search for a pattern in a text returns, in terms of what the pattern means. -/
structure Pattern.MatchesLeftmost (pattern : Pattern) (text : List Char) : Prop where
  spelled : ∀ m ∈ pattern.findAll text,
    pattern.Spells text m.start m.stop ∧ m.start < m.stop ∧ m.stop ≤ text.length ∧
      m.text = Text.slice text m.start m.stop
  /-- The occurrences lie apart from left to right. -/
  apart : (pattern.findAll text).Pairwise fun left right =>
    left.start < right.start ∧ left.stop ≤ right.start
  /-- No stretch that the pattern spells starts in a gap: before the first occurrence, between two
  of them, or after the last. -/
  covered : ∀ start stop, pattern.Spells text start stop →
    ∃ m ∈ pattern.findAll text, m.start ≤ start ∧ start < m.stop
  first : pattern.find? text = (pattern.findAll text).head?
  absent : pattern.find? text = none ↔ ∀ start stop, ¬ pattern.Spells text start stop
  whole : (pattern.matchWhole? text).isSome ↔ pattern.Spells text 0 text.length
  /-- A group that an occurrence passed is a stretch inside it. -/
  groups : ∀ m, m ∈ pattern.findAll text ∨ pattern.matchWhole? text = some m →
    ∀ index word, m.group? index = some word →
      ∃ first last, m.start ≤ first ∧ first ≤ last ∧ last ≤ m.stop ∧
        word = Text.slice text first last

namespace Pattern

theorem matchesLeftmost (pattern : Pattern) (text : List Char) (filled : 0 < pattern.minLength) :
    pattern.MatchesLeftmost text := by
  have leftmost := leftmost_occurrences pattern text filled 0
  have occurs := occurs_of_mem_occurrences pattern text filled 0
  rw [← findAll_eq_occurrences] at leftmost occurs
  refine ⟨?_, ?_, ?_, find?_eq_head? pattern text, find?_eq_none_iff pattern text filled,
    matchWhole?_isSome_iff pattern text, ?_⟩
  · intro m member
    have spelled := leftmost.spelled m member
    have order := leftmost.filled m member
    have bound := spelled.le_max_length
    exact ⟨spelled, order, by omega, (occurs m member).shown⟩
  · refine List.Pairwise.imp_of_mem ?_ leftmost.apart
    intro left right member _ order
    exact ⟨Nat.lt_of_lt_of_le (leftmost.filled left member) order, order⟩
  · intro start stop spelled
    exact leftmost.covered start stop (Nat.zero_le start) spelled
  · intro m found index word passed
    have outcome : (m.stop, m.groups) ∈ pattern.outcomes text m.start := by
      rcases found with member | whole
      · exact (occurs m member).mem
      · exact (mem_of_matchWhole? whole).2.2
    exact (groups_inside outcome _ (Match.mem_of_group? passed)).2

end Pattern

namespace Catalog

def patterns : List Pattern :=
  lineEntries.map Entry.pattern ++
    [arrayAccess, identifier, loop, bodyAccess, boundCheck, function, pointerParameter, assignment]

theorem minLength_pos : ∀ pattern ∈ patterns, 0 < pattern.minLength := by
  decide

/-- Matching is sound, complete up to leftmost occurrences that do not overlap, and ordered, for
every pattern of the catalog and every text. -/
theorem patterns_match_leftmost (pattern : Pattern) (listed : pattern ∈ patterns)
    (text : List Char) : pattern.MatchesLeftmost text :=
  pattern.matchesLeftmost text (minLength_pos pattern listed)

theorem boundCheck_matches_leftmost :
    boundCheck ∈ patterns ∧ boundCheck.MatchesLeftmost "i < v.size() - 1".toList :=
  ⟨by simp [patterns], patterns_match_leftmost boundCheck (by simp [patterns]) _⟩

end Catalog

end OverflowScan
