import OverflowScan.Proofs.Pass.Excerpt

set_option autoImplicit false

namespace OverflowScan

theorem Text.slice_eq_slice_iff (text : List Char) {start stop later : Nat} (order : start ≤ stop)
    (further : stop ≤ later) :
    slice text start stop = slice text start later ↔ stop = later ∨ text.length ≤ stop := by
  constructor
  · intro same
    have lengths := congrArg List.length same
    rw [length_slice_eq_min, length_slice_eq_min] at lengths
    omega
  · rintro (rfl | ended)
    · rfl
    · have whole (last : Nat) (behind : text.length ≤ last) :
          slice text start last = text.drop start := by
        apply List.take_of_length_le
        rw [List.length_drop]
        omega
      rw [whole stop ended, whole later (by omega)]

namespace LinePass

open Catalog

/-- The part of a line around an occurrence, by where it starts and how long it is: up to twenty
characters before it and up to forty after it. -/
def window (line : List Char) (start width : Nat) : List Char :=
  Text.slice line (start - contextBefore) (start + width + contextAfter)

def excerptEnd (start stop : Nat) : Nat :=
  stop + (contextAfter - min start contextBefore)

/-- The characters of the window that an excerpt leaves out, all of them at its end. -/
def cutOff (line : List Char) (start stop : Nat) : List Char :=
  Text.slice line (excerptEnd start stop) (stop + contextAfter)

theorem length_cutOff (line : List Char) (start stop : Nat) :
    (cutOff line start stop).length =
      min (line.length - stop) 40 - min (line.length - stop) (40 - min start 20) := by
  rw [cutOff, Text.length_slice_eq_min, excerptEnd, contextBefore, contextAfter]
  omega

section

variable {line : List Char} {found : Match}

theorem excerpt_eq_slice (shown : found.text = Text.slice line found.start found.stop)
    (order : found.start ≤ found.stop) (inside : found.stop ≤ line.length) :
    excerpt line found =
      Text.slice line (found.start - contextBefore) (excerptEnd found.start found.stop) := by
  rw [excerpt_eq_shown shown order inside, shown_eq_slice order, excerptEnd]

theorem window_eq_slice (shown : found.text = Text.slice line found.start found.stop)
    (order : found.start ≤ found.stop) (inside : found.stop ≤ line.length) :
    window line found.start found.text.length =
      Text.slice line (found.start - contextBefore) (found.stop + contextAfter) := by
  have width : found.text.length = found.stop - found.start := by
    rw [shown, Text.length_slice line _ _ inside]
  rw [window, width, Nat.add_sub_cancel' order]

theorem excerpt_append_cutOff (shown : found.text = Text.slice line found.start found.stop)
    (order : found.start ≤ found.stop) (inside : found.stop ≤ line.length) :
    excerpt line found ++ cutOff line found.start found.stop =
      window line found.start found.text.length := by
  rw [excerpt_eq_slice shown order inside, window_eq_slice shown order inside, cutOff]
  apply Text.slice_append
  · unfold excerptEnd
    omega
  · unfold excerptEnd
    omega

theorem excerpt_eq_window_iff (shown : found.text = Text.slice line found.start found.stop)
    (order : found.start ≤ found.stop) (inside : found.stop ≤ line.length) :
    excerpt line found = window line found.start found.text.length ↔
      found.start = 0 ∨ line.length - found.stop ≤ 40 - min found.start 20 := by
  rw [excerpt_eq_slice shown order inside, window_eq_slice shown order inside,
    Text.slice_eq_slice_iff line (by unfold excerptEnd; omega) (by unfold excerptEnd; omega),
    excerptEnd, contextBefore, contextAfter]
  omega

end

/-- The finding on an occurrence describes it by a beginning of the window around it. This is the
whole window exactly if the occurrence starts the line, or the line has no more behind it than forty
characters less those shown before it. -/
theorem description_shows_window_iff (number : Int) (line : List Char) (entry : Catalog.Entry)
    (found : Match) (listed : entry ∈ lineEntries) (among : found ∈ entry.pattern.findAll line) :
    let finding := entryFinding number line entry found
    let documented := window line found.start found.text.length
    finding ∈ lineFindings number line ∧
    (finding.description = entry.description ++ " in context: " ++ String.ofList documented ↔
      found.start = 0 ∨ line.length - found.stop ≤ 40 - min found.start 20) ∧
    ∃ cut, finding.description ++ String.ofList cut =
        entry.description ++ " in context: " ++ String.ofList documented ∧
      cut.length = min (line.length - found.stop) 40 -
        min (line.length - found.stop) (40 - min found.start 20) := by
  intro finding documented
  obtain ⟨-, filled, inside, shown⟩ :=
    (entry.pattern.matchesLeftmost line (entry_filled listed)).spelled found among
  have order := Nat.le_of_lt filled
  have described : finding.description =
      entry.description ++ " in context: " ++ String.ofList (excerpt line found) := rfl
  refine ⟨?_, ?_, cutOff line found.start found.stop, ?_, length_cutOff line _ _⟩
  · apply List.mem_append_left
    exact List.mem_flatMap.mpr ⟨entry, listed, List.mem_map.mpr ⟨found, among, rfl⟩⟩
  · rw [described, String.append_right_inj, String.ofList_inj]
    exact excerpt_eq_window_iff shown order inside
  · rw [described, String.append_assoc, ← String.ofList_append,
      excerpt_append_cutOff shown order inside]

theorem leading_call_shows_window :
    let line := "gets(s); // one line; an empty one ends the list".toList
    let found : Match := ⟨0, 5, "gets(".toList, [(1, "gets".toList)]⟩
    found ∈ unsafeCall.pattern.findAll line ∧
    (entryFinding 1 line unsafeCall found).description =
      "Unsafe C string function in context: " ++ String.ofList (window line 0 5) := by
  intro line found
  have among : found ∈ unsafeCall.pattern.findAll line := by decide +kernel
  have listed : unsafeCall ∈ lineEntries := by simp [lineEntries]
  exact ⟨among,
    (description_shows_window_iff 1 line unsafeCall found listed among).2.1.mpr (Or.inl rfl)⟩

/-- Behind an indented call the excerpt is four characters short. -/
theorem indented_call_cut_short :
    let line := "    strcpy(dest, src); // copies the names into the header".toList
    let found : Match := ⟨4, 11, "strcpy(".toList, [(1, "strcpy".toList)]⟩
    found ∈ unsafeCall.pattern.findAll line ∧
    (entryFinding 1 line unsafeCall found).description =
      "Unsafe C string function in context:     strcpy(dest, src); // copies the names into" ∧
    String.ofList (window line 4 7) = "    strcpy(dest, src); // copies the names into the" ∧
    (entryFinding 1 line unsafeCall found).description ≠
      "Unsafe C string function in context: " ++ String.ofList (window line 4 7) := by
  decide +kernel

end LinePass

end OverflowScan
