import Mathlib.Data.List.Forall2
import OverflowScan.Proofs.Pass.Findings

set_option autoImplicit false

namespace OverflowScan

theorem Text.length_slice_eq_min (text : List Char) (start stop : Nat) :
    (slice text start stop).length = min (stop - start) (text.length - start) := by
  rw [slice, List.length_take, List.length_drop]

namespace LinePass

open Catalog

/-- The parts of an excerpt around a stretch of a line: they stand right before it and right after
it, and have as many characters as the line and the width of the excerpt leave them. -/
structure Surrounds (line : List Char) (start stop : Nat) (before after : List Char) : Prop where
  contiguous : ∃ front back,
    line = front ++ (before ++ Text.slice line start stop ++ after) ++ back ∧
      front.length + before.length = start
  length_before : before.length = min start 20
  length_after : after.length = min (line.length - stop) (40 - min start 20)
  least_after : min (line.length - stop) 20 ≤ after.length
  bounded : (before ++ Text.slice line start stop ++ after).length ≤ stop - start + 40

/-- A finding names an occurrence and describes it by its entry and an excerpt that shows all of
it. -/
def ShowsOccurrence (line : List Char) (occurrence : Catalog.Entry × Match) (finding : Finding) :
    Prop :=
  finding.subject = subject occurrence.2 ∧ ∃ before after,
    Surrounds line occurrence.2.start occurrence.2.stop before after ∧
      finding.description = occurrence.1.description ++ " in context: " ++
        String.ofList (before ++ Text.slice line occurrence.2.start occurrence.2.stop ++ after)

def shownBefore (line : List Char) (start : Nat) : List Char :=
  Text.slice line (start - contextBefore) start

def shownAfter (line : List Char) (start stop : Nat) : List Char :=
  Text.slice line stop (stop + (contextAfter - min start contextBefore))

section

variable {line : List Char} {start stop : Nat}

theorem length_shownBefore (inside : start ≤ line.length) :
    (shownBefore line start).length = min start 20 := by
  rw [shownBefore, Text.length_slice_eq_min, contextBefore]
  omega

theorem length_shownAfter (line : List Char) (start stop : Nat) :
    (shownAfter line start stop).length = min (line.length - stop) (40 - min start 20) := by
  rw [shownAfter, Text.length_slice_eq_min, contextBefore, contextAfter]
  omega

/-- The stretch and what is shown around it are one stretch. -/
theorem shown_eq_slice (order : start ≤ stop) :
    shownBefore line start ++ Text.slice line start stop ++ shownAfter line start stop =
      Text.slice line (start - contextBefore)
        (stop + (contextAfter - min start contextBefore)) := by
  rw [shownBefore, shownAfter, Text.slice_append line _ start stop (by omega) order,
    Text.slice_append line _ stop _ (by omega) (by omega)]

theorem surrounds (order : start ≤ stop) (inside : stop ≤ line.length) :
    Surrounds line start stop (shownBefore line start) (shownAfter line start stop) := by
  have before := length_shownBefore (Nat.le_trans order inside)
  have after := length_shownAfter line start stop
  have middle := Text.length_slice line start stop inside
  constructor
  · refine ⟨line.take (start - contextBefore),
      line.drop (stop + (contextAfter - min start contextBefore)), ?_, ?_⟩
    · rw [shown_eq_slice order, List.append_assoc, Text.slice_append_drop line (by omega),
        List.take_append_drop]
    · rw [List.length_take, before, contextBefore]
      omega
  · exact before
  · exact after
  · omega
  · rw [List.length_append, List.length_append, before, after, middle]
    omega

theorem excerpt_eq_shown {found : Match}
    (shown : found.text = Text.slice line found.start found.stop)
    (order : found.start ≤ found.stop) (inside : found.stop ≤ line.length) :
    excerpt line found =
      shownBefore line found.start ++ Text.slice line found.start found.stop ++
        shownAfter line found.start found.stop := by
  have width := Text.length_slice line found.start found.stop inside
  rw [shown_eq_slice order, excerpt, shown, width, Text.slice]
  congr 1
  simp only [contextBefore, contextAfter]
  omega

end

theorem entryFinding_showsOccurrence {line : List Char} {entry : Catalog.Entry} {found : Match}
    (number : Int) (listed : entry ∈ lineEntries) (among : found ∈ entry.pattern.findAll line) :
    ShowsOccurrence line (entry, found) (entryFinding number line entry found) := by
  obtain ⟨-, order, inside, shown⟩ :=
    (entry.pattern.matchesLeftmost line (entry_filled listed)).spelled found among
  have whole := excerpt_eq_shown shown (Nat.le_of_lt order) inside
  refine ⟨rfl, _, _, surrounds (Nat.le_of_lt order) inside, ?_⟩
  rw [← whole]
  rfl

def entryOccurrences (line : List Char) : List (Catalog.Entry × Match) :=
  lineEntries.flatMap fun entry => (entry.pattern.findAll line).map fun found => (entry, found)

/-- The findings of a line are one for each occurrence of an entry, in order, and the array
accesses. Each of the former shows its whole occurrence, up to twenty characters before it, and
behind it what is left of forty. -/
theorem excerpts_show_whole_occurrence (number : Int) (line : List Char) :
    ∃ shown accesses, lineFindings number line = shown ++ accesses ∧
      List.Forall₂ (ShowsOccurrence line) (entryOccurrences line) shown ∧
      ∀ finding ∈ accesses, finding.subject = accessSubject := by
  refine ⟨_, _, rfl, ?_, ?_⟩
  · have entries : List.Forall₂ (fun entry again => entry = again ∧ entry ∈ lineEntries)
        lineEntries lineEntries :=
      List.forall₂_same.mpr fun _ listed => ⟨rfl, listed⟩
    apply List.rel_flatMap entries
    intro entry again same
    obtain ⟨rfl, listed⟩ := same
    rw [List.forall₂_map_left_iff, List.forall₂_map_right_iff]
    apply List.forall₂_same.mpr
    intro found among
    exact entryFinding_showsOccurrence number listed among
  · intro finding member
    obtain ⟨found, among, reported⟩ := List.mem_filterMap.mp member
    have occurs := Pattern.occurs_of_mem_occurrences arrayAccess line (by decide) 0 found among
    obtain ⟨index, -, -, rfl⟩ := accessFinding?_eq_some finding occurs reported
    rfl

example :
    shownBefore "  ab".toList 2 = "  ".toList ∧
      (shownAfter (List.replicate 80 'c') 2 4).length = 38 := by
  decide

end LinePass

end OverflowScan
