import Mathlib.Data.List.Basic
import OverflowScan.Proofs.Pass.Transport
import OverflowScan.Proofs.Pattern.Extension
import OverflowScan.Proofs.Text.Seams

set_option autoImplicit false

namespace OverflowScan

theorem Pattern.not_spells_front {pattern : Pattern} {front : List Char} (ended : Text.Ended front)
    (plain : ∀ word ∈ pattern.openings, '\n' ∉ word)
    (absent : ∀ word ∈ pattern.openings, ¬ word <:+: front) (text : List Char) :
    ∀ start < front.length, ∀ stop, ¬ pattern.Spells (front ++ text) start stop := by
  intro start before stop spelled
  obtain ⟨word, opening, stands, -⟩ := spelled.opens
  exact absent word opening (Text.infix_front ended (plain word opening) before stands)

/-- A line feed is no word character, so an ended text leaves the word edges behind it. -/
theorem Text.Ended.seam {front : List Char} (ended : Ended front) :
    ¬ front.getLast?.any isWord := by
  rcases ended with rfl | feed
  · simp
  · rw [feed]
    decide

namespace LinePass

theorem accessFinding?_add (number : Int) (count : Nat) (found : Match) :
    accessFinding? (number + count) found =
      (accessFinding? number found).map (Finding.moveDown count) := by
  unfold accessFinding?
  cases found.group? 1 with
  | none => rfl
  | some index =>
      dsimp only
      split <;> rfl

theorem lineFindings_add (number : Int) (count : Nat) (line : List Char) :
    lineFindings (number + count) line =
      (lineFindings number line).map (Finding.moveDown count) := by
  have entries (entry : Catalog.Entry) :
      entryFinding (number + count) line entry =
        Finding.moveDown count ∘ entryFinding number line entry := rfl
  have accesses : accessFinding? (number + count) =
      fun found => (accessFinding? number found).map (Finding.moveDown count) :=
    funext (accessFinding?_add number count)
  simp only [lineFindings, List.map_append, List.map_flatMap, List.map_map, List.map_filterMap,
    entries, accesses]

theorem findingsFrom_append (number : Nat) (lines more : List (List Char)) :
    findingsFrom number (lines ++ more) =
      findingsFrom number lines ++ findingsFrom (number + lines.length) more := by
  induction lines generalizing number with
  | nil => rfl
  | cons line rest ih =>
      rw [List.cons_append, findingsFrom, findingsFrom, ih (number + 1), List.append_assoc,
        List.length_cons, Nat.add_assoc, Nat.add_comm 1]

theorem findingsFrom_add (number count : Nat) (lines : List (List Char)) :
    findingsFrom (number + count) lines =
      (findingsFrom number lines).map (Finding.moveDown count) := by
  induction lines generalizing number with
  | nil => rfl
  | cons line rest ih =>
      have next := ih (number + 1)
      rw [Nat.add_right_comm] at next
      rw [findingsFrom, findingsFrom, next, List.map_append, Int.natCast_add, lineFindings_add]

theorem findings_append_front {front : List Char} (ended : Text.Ended front) (text : List Char) :
    findings (front ++ text) =
      findings front ++ (findings text).map (Finding.moveDown (front.count '\n')) := by
  rw [findings, Text.lines_append ended, findingsFrom_append, Text.length_lines ended,
    findingsFrom_add]
  rfl

end LinePass

namespace LoopPass

theorem loopFinding?_append_front (front text : List Char) (found : Match) :
    loopFinding? (front ++ text) (found.shift front.length) =
      (loopFinding? text found).map (Finding.moveDown (front.count '\n')) :=
  loopFinding?_congr rfl rfl (Text.lineNumberAt_append_front front text found.start)

theorem findings_append_front {front : List Char} (ended : Text.Ended front)
    (absent : ¬ "for".toList <:+: front) (text : List Char) :
    findings (front ++ text) = (findings text).map (Finding.moveDown (front.count '\n')) := by
  have none : ∀ start < front.length, ∀ stop, ¬ Catalog.loop.Spells (front ++ text) start stop := by
    refine Pattern.not_spells_front ended (by decide) ?_ text
    rw [Catalog.loop_openings]
    simpa using absent
  rw [findings, Pattern.findAll_append_left (by decide) front text (fun _ => ended.seam) none,
    List.filterMap_map, findings, List.map_filterMap]
  simp only [Function.comp_def, loopFinding?_append_front]

end LoopPass

namespace FunctionPass

theorem functionFinding?_append_front (front text : List Char) {found : Match}
    (filled : 0 < found.stop) :
    functionFinding? (front ++ text) (found.shift front.length) =
      (functionFinding? text found).map (Finding.moveDown (front.count '\n')) := by
  refine functionFinding?_congr rfl rfl (congrArg assigns ?_)
    (Text.lineNumberAt_append_front front text found.start)
  have before : (found.stop : Int) - 1 = (found.stop - 1 : Nat) := by omega
  have place : ((front.length + found.stop : Nat) : Int) - 1 =
      (front.length + (found.stop - 1) : Nat) := by omega
  rw [before, Match.shift, place]
  exact Text.bodyAt?_append_front front text (found.stop - 1)

theorem findings_append_front {front : List Char} (ended : Text.Ended front)
    (absent : ∀ kind ∈ Catalog.returnTypes, ¬ kind <:+: front) (text : List Char) :
    findings (front ++ text) = (findings text).map (Finding.moveDown (front.count '\n')) := by
  have none : ∀ start < front.length, ∀ stop,
      ¬ Catalog.function.Spells (front ++ text) start stop := by
    refine Pattern.not_spells_front ended (by decide) ?_ text
    rw [Catalog.function_openings]
    exact absent
  have leftmost := Pattern.leftmost_occurrences Catalog.function text (by decide) 0
  rw [findings, Pattern.findAll_append_left (by decide) front text (fun _ => ended.seam) none,
    List.filterMap_map, findings, List.map_filterMap]
  refine List.filterMap_congr fun found member => ?_
  exact functionFinding?_append_front front text
    (Nat.lt_of_le_of_lt (Nat.zero_le _) (leftmost.filled found member))

end FunctionPass

/-- Lines in front of a text move the findings of every pass down by as many lines. The line pass
reports on those lines first; the other passes report nothing there without their keywords. -/
theorem prepending_moves_findings (front text : List Char) (ended : Text.Ended front) :
    LinePass.findings (front ++ text) =
      LinePass.findings front ++
        (LinePass.findings text).map (Finding.moveDown (front.count '\n')) ∧
    (¬ "for".toList <:+: front →
      LoopPass.findings (front ++ text) =
        (LoopPass.findings text).map (Finding.moveDown (front.count '\n'))) ∧
    ((∀ kind ∈ Catalog.returnTypes, ¬ kind <:+: front) →
      FunctionPass.findings (front ++ text) =
        (FunctionPass.findings text).map (Finding.moveDown (front.count '\n'))) :=
  ⟨LinePass.findings_append_front ended text,
    fun absent => LoopPass.findings_append_front ended absent text,
    fun absent => FunctionPass.findings_append_front ended absent text⟩

theorem line_above_moves_findings :
    Text.Ended "# a\n".toList ∧
    LoopPass.findings
        ("# a\n".toList ++ "for(;i<n;)\x7ba[i];\x7d\nint f(char *s)\x7bs=1;\x7d".toList) =
      [⟨LoopPass.subject, 2, LoopPass.description, .medium, LoopPass.name⟩] ∧
    FunctionPass.findings
        ("# a\n".toList ++ "for(;i<n;)\x7ba[i];\x7d\nint f(char *s)\x7bs=1;\x7d".toList) =
      [⟨"f", 3, FunctionPass.description, .medium, FunctionPass.name⟩] := by
  have ended : Text.Ended "# a\n".toList := Or.inr (by decide)
  obtain ⟨-, loops, functions⟩ := prepending_moves_findings "# a\n".toList
    "for(;i<n;)\x7ba[i];\x7d\nint f(char *s)\x7bs=1;\x7d".toList ended
  refine ⟨ended, ?_, ?_⟩
  · exact (loops (by decide)).trans (by decide +kernel)
  · exact (functions (by decide)).trans (by decide +kernel)

end OverflowScan
