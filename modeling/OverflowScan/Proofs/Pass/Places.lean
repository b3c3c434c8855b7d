import OverflowScan.Proofs.Catalog.Standing
import OverflowScan.Proofs.Pass.Findings

set_option autoImplicit false

namespace OverflowScan

open Catalog

/-- A physical line, an offset in it, and what stands there. -/
structure Place where
  number : Nat
  offset : Nat
  subject : String

/-- The places of a text at which something stands, each once, from the first line to the last and
from left to right. -/
structure ListsPlaces (stands : List Char → Nat → String → Prop) (text : List Char)
    (places : List Place) : Prop where
  ordered : places.Pairwise fun left right =>
    left.number < right.number ∨ (left.number = right.number ∧ left.offset < right.offset)
  complete : ∀ place, place ∈ places ↔
    ∃ line, 1 ≤ place.number ∧ (Text.lines text)[place.number - 1]? = some line ∧
      stands line place.offset place.subject

/-- An entry whose pattern spells what stands at an offset: in one way only, and never so that two
of them overlap. -/
structure Locates (entry : Catalog.Entry) (stands : List Char → Nat → String → Prop) : Prop where
  found : ∀ {line m}, entry.pattern.Occurs line m → stands line m.start (LinePass.subject m)
  spelled : ∀ {line offset subject}, stands line offset subject →
    ∃ stop groups, (stop, groups) ∈ entry.pattern.outcomes line offset
  apart : ∀ {line start stop groups first last others},
    (stop, groups) ∈ entry.pattern.outcomes line start →
      (last, others) ∈ entry.pattern.outcomes line first → start < first → stop ≤ first
  unique : ∀ {line offset subject other}, stands line offset subject → stands line offset other →
    subject = other

namespace Locates

variable {entry : Catalog.Entry} {stands : List Char → Nat → String → Prop}

theorem stands_iff (locates : Locates entry stands) (listed : entry ∈ lineEntries)
    (line : List Char) (offset : Nat) (subject : String) :
    stands line offset subject ↔
      ∃ m ∈ entry.pattern.findAll line, m.start = offset ∧ LinePass.subject m = subject := by
  have leftmost := Pattern.leftmost_occurrences entry.pattern line (entry_filled listed) 0
  constructor
  · intro stand
    obtain ⟨stop, groups, spelled⟩ := locates.spelled stand
    obtain ⟨m, member, left, inside⟩ :=
      leftmost.covered offset stop (Nat.zero_le offset) (Pattern.Spells.of_mem spelled)
    have occurs := LinePass.entry_occurs listed member
    -- The occurrence that covers the offset cannot start before it.
    have same : m.start = offset := by
      rcases Nat.eq_or_lt_of_le left with same | before
      · exact same
      · have beyond := locates.apart occurs.mem spelled before
        omega
    subst offset
    exact ⟨m, member, rfl, locates.unique (locates.found occurs) stand⟩
  · rintro ⟨m, member, rfl, rfl⟩
    exact locates.found (LinePass.entry_occurs listed member)

end Locates

def entryPlaces (entry : Catalog.Entry) (text : List Char) : List Place :=
  ((Text.lines text).zipIdx 1).flatMap fun numbered =>
    (entry.pattern.findAll numbered.1).map fun m => ⟨numbered.2, m.start, LinePass.subject m⟩

theorem Locates.listsPlaces {entry : Catalog.Entry} {stands : List Char → Nat → String → Prop}
    (locates : Locates entry stands) (listed : entry ∈ lineEntries) (text : List Char) :
    ListsPlaces stands text (entryPlaces entry text) := by
  have numbers : ((Text.lines text).zipIdx 1).Pairwise fun left right => left.2 < right.2 := by
    refine List.pairwise_map.mp ?_
    rw [List.zipIdx_map_snd]
    exact List.pairwise_lt_range'
  constructor
  · refine List.pairwise_flatMap.mpr ⟨fun numbered _ => ?_, numbers.imp fun before => ?_⟩
    · have leftmost := Pattern.leftmost_occurrences entry.pattern numbered.1 (entry_filled listed) 0
      refine List.pairwise_map.mpr (leftmost.apart.imp_of_mem fun first _ apart => Or.inr ⟨rfl, ?_⟩)
      exact Nat.lt_of_lt_of_le (leftmost.filled _ first) apart
    · intro left atLeft right atRight
      obtain ⟨_, -, rfl⟩ := List.mem_map.mp atLeft
      obtain ⟨_, -, rfl⟩ := List.mem_map.mp atRight
      exact Or.inl before
  · rintro ⟨number, offset, subject⟩
    simp only [entryPlaces, List.mem_flatMap, List.mem_map, Place.mk.injEq, Prod.exists]
    constructor
    · rintro ⟨line, _, numbered, m, member, rfl, rfl, rfl⟩
      obtain ⟨positive, lookup⟩ := List.mk_mem_zipIdx_iff_le_and_getElem?_sub.mp numbered
      exact ⟨line, positive, lookup,
        (locates.stands_iff listed line _ _).mpr ⟨m, member, rfl, rfl⟩⟩
    · rintro ⟨line, positive, lookup, stand⟩
      obtain ⟨m, member, start, shown⟩ := (locates.stands_iff listed line _ _).mp stand
      exact ⟨line, number, List.mk_mem_zipIdx_iff_le_and_getElem?_sub.mpr ⟨positive, lookup⟩, m,
        member, rfl, start, shown⟩

theorem locates_unsafeCall : Locates unsafeCall UnsafeCallAt where
  found occurs := by
    obtain ⟨name, named, paren, parts, -, groups⟩ := mem_outcomes_unsafeCall.mp occurs.mem
    rw [LinePass.subject_of_group groups, unsafeCallAt_iff, String.toList_ofList]
    exact ⟨named, paren, parts⟩
  spelled stand := by
    obtain ⟨named, paren, parts⟩ := unsafeCallAt_iff.mp stand
    exact ⟨_, _, mem_outcomes_unsafeCall.mpr ⟨_, named, paren, parts, rfl, rfl⟩⟩
  apart found again order := by
    obtain ⟨_, named, _, parts, rfl, -⟩ := mem_outcomes_unsafeCall.mp found
    obtain ⟨_, known, _, others, rfl, -⟩ := mem_outcomes_unsafeCall.mp again
    exact parts.apart keywords_unsafeNames named known others order
  unique stand other := by
    obtain ⟨named, _, parts⟩ := unsafeCallAt_iff.mp stand
    obtain ⟨known, _, others⟩ := unsafeCallAt_iff.mp other
    exact String.toList_inj.mp (parts.unique keywords_unsafeNames named known others).1

theorem locates_fixedBuffer : Locates fixedBuffer FixedBufferAt where
  found occurs := by
    obtain ⟨_, _, _, _, parts, stop, groups⟩ := mem_outcomes_fixedBuffer.mp occurs.mem
    rw [LinePass.subject_of_no_group occurs groups, fixedBufferAt_iff, stop]
    exact ⟨_, _, _, _, parts, String.toList_ofList⟩
  spelled stand := by
    obtain ⟨_, _, _, _, parts, -⟩ := fixedBufferAt_iff.mp stand
    exact ⟨_, _, mem_outcomes_fixedBuffer.mpr ⟨_, _, _, _, parts, rfl, rfl⟩⟩
  apart found again order := by
    obtain ⟨_, _, _, _, parts, rfl, -⟩ := mem_outcomes_fixedBuffer.mp found
    obtain ⟨_, _, _, _, others, rfl, -⟩ := mem_outcomes_fixedBuffer.mp again
    exact parts.apart others order
  unique stand other := by
    obtain ⟨_, _, _, _, parts, shown⟩ := fixedBufferAt_iff.mp stand
    obtain ⟨_, _, _, _, others, again⟩ := fixedBufferAt_iff.mp other
    rw [← parts.unique others] at again
    exact String.toList_inj.mp (shown.trans again.symm)

theorem locates_standardCopy : Locates standardCopy StandardCopyAt where
  found occurs := by
    obtain ⟨_, parts, stop, groups⟩ := mem_outcomes_standardCopy.mp occurs.mem
    rw [LinePass.subject_of_no_group occurs groups, standardCopyAt_iff, stop]
    exact ⟨_, parts, String.toList_ofList⟩
  spelled stand := by
    obtain ⟨_, parts, -⟩ := standardCopyAt_iff.mp stand
    exact ⟨_, _, mem_outcomes_standardCopy.mpr ⟨_, parts, rfl, rfl⟩⟩
  apart found again order := by
    obtain ⟨_, parts, rfl, -⟩ := mem_outcomes_standardCopy.mp found
    obtain ⟨_, others, rfl, -⟩ := mem_outcomes_standardCopy.mp again
    exact parts.apart keywords_standardCopy List.mem_cons_self List.mem_cons_self others order
  unique stand other := by
    obtain ⟨_, parts, shown⟩ := standardCopyAt_iff.mp stand
    obtain ⟨_, others, again⟩ := standardCopyAt_iff.mp other
    have same := parts.unique keywords_standardCopy List.mem_cons_self List.mem_cons_self others
    rw [← same.2] at again
    exact String.toList_inj.mp (shown.trans again.symm)

end OverflowScan
