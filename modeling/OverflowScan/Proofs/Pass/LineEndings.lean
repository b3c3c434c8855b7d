import Mathlib.Data.List.Forall2
import OverflowScan.Proofs.Catalog.Heads
import OverflowScan.Proofs.Pass.Transport
import OverflowScan.Proofs.Pattern.Returns

set_option autoImplicit false

namespace OverflowScan

open Text (crlf crlfOffset)

namespace Catalog

open Pattern

theorem overlooksReturns_loop : OverlooksReturns loop :=
  ⟨by decide, by decide, by decide, by decide⟩

theorem overlooksReturns_function : OverlooksReturns function :=
  ⟨by decide, by decide, by decide, by decide⟩

theorem overlooksReturns_bodyAccess : OverlooksReturns bodyAccess :=
  ⟨by decide, by decide, by decide, by decide⟩

theorem overlooksReturns_pointerParameter : OverlooksReturns pointerParameter :=
  ⟨by decide, by decide, by decide, by decide⟩

/-- A bound check may start inside a line ending, but only with blanks, without which it occurs as
well. -/
theorem boundCheck_occursIn_crlf (text : List Char) :
    boundCheck.occursIn (crlf text) = boundCheck.occursIn text := by
  obtain ⟨rest, shape⟩ : ∃ rest, boundCheck = seq (many .blank) rest := ⟨_, rfl⟩
  have overlooks : OverlooksReturns rest := by
    cases shape
    exact ⟨by decide, by decide, by decide, by decide⟩
  rw [shape, occursIn_seq_many _ rest _ overlooks.filled,
    occursIn_seq_many _ rest _ overlooks.filled, overlooks.occursIn_crlf]

theorem assignment_occursIn_crlf (text : List Char) :
    assignment.occursIn (crlf text) = assignment.occursIn text := by
  rw [Bool.eq_iff_iff, assignment_occursIn_iff, assignment_occursIn_iff]
  constructor
  · rintro ⟨_, _, order, equals, semicolon⟩
    obtain ⟨first, rfl⟩ := Text.exists_crlfOffset (by rw [equals]; decide)
    obtain ⟨second, rfl⟩ := Text.exists_crlfOffset (by rw [semicolon]; decide)
    exact ⟨first, second, Text.crlfOffset_lt_iff.mp order,
      (Text.getElem?_crlf_eq_some_iff (by decide) (by decide)).mp equals,
      (Text.getElem?_crlf_eq_some_iff (by decide) (by decide)).mp semicolon⟩
  · rintro ⟨first, second, order, equals, semicolon⟩
    exact ⟨_, _, Text.crlfOffset_lt order,
      (Text.getElem?_crlf_eq_some_iff (by decide) (by decide)).mpr equals,
      (Text.getElem?_crlf_eq_some_iff (by decide) (by decide)).mpr semicolon⟩

end Catalog

theorem LoopPass.findings_crlf (text : List Char) : findings (crlf text) = findings text := by
  have same (found : Match) :
      loopFinding? (crlf text) (found.crlf text) = loopFinding? text found := by
    have moved : loopFinding? (crlf text) (found.crlf text) =
        (loopFinding? text found).map (Finding.moveDown 0) := by
      refine loopFinding?_congr ?_ ?_ (Text.lineNumberAt_crlf text found.start)
      · rw [Match.getD_group?_crlf, Catalog.overlooksReturns_bodyAccess.occursIn_crlf]
      · rw [Match.getD_group?_crlf, Catalog.boundCheck_occursIn_crlf]
    rw [moved, Finding.map_moveDown_zero]
  rw [findings, Catalog.overlooksReturns_loop.findAll_crlf Catalog.steady_loop, List.filterMap_map,
    findings]
  exact List.filterMap_congr fun found _ => same found

theorem FunctionPass.functionFinding?_crlf {text : List Char} {found : Match}
    (occurs : Catalog.function.Occurs text found) :
    functionFinding? (crlf text) (found.crlf text) = functionFinding? text found := by
  obtain ⟨kind, nameStart, nameStop, paren, close, brace, head, stop, groups⟩ :=
    Catalog.mem_outcomes_function.mp occurs.mem
  have named : (found.group? 2).getD [] = Text.slice text nameStart nameStop := by
    simp [Match.group?, groups, List.lookup_cons]
  have plain : '\n' ∉ (found.group? 2).getD [] := by
    rw [named]
    intro feed
    exact absurd (head.named.2.forall_mem '\n' feed) (by decide)
  -- The brace is one character in both texts, so the body starts at the place of the brace.
  have place : crlfOffset text found.stop = crlfOffset text brace + 1 := by
    rw [stop, Text.crlfOffset_succ (by rw [head.braced]; decide)]
  have body : Text.bodyAt? (crlf text) ((crlfOffset text found.stop : Int) - 1) =
      (Text.bodyAt? text ((found.stop : Int) - 1)).map crlf := by
    rw [place, stop, Int.natCast_add, Int.natCast_add, Int.natCast_one, Int.add_sub_cancel,
      Int.add_sub_cancel, Text.bodyAt?_crlf]
  have moved : functionFinding? (crlf text) (found.crlf text) =
      (functionFinding? text found).map (Finding.moveDown 0) := by
    refine functionFinding?_congr ?_ ?_ ?_ (Text.lineNumberAt_crlf text found.start)
    · rw [Match.getD_group?_crlf, Catalog.overlooksReturns_pointerParameter.occursIn_crlf]
    · rw [Match.getD_group?_crlf, Text.crlf_of_plain plain]
    · rw [Match.crlf, body, assigns, assigns, Option.any_map]
      simp only [Catalog.assignment_occursIn_crlf]
  rw [moved, Finding.map_moveDown_zero]

theorem FunctionPass.findings_crlf (text : List Char) : findings (crlf text) = findings text := by
  have occurs := Pattern.occurs_of_mem_occurrences Catalog.function text (by decide) 0
  rw [findings, Catalog.overlooksReturns_function.findAll_crlf Catalog.steady_function,
    List.filterMap_map, findings]
  exact List.filterMap_congr fun found member => functionFinding?_crlf (occurs found member)

theorem Pattern.findAll_append_return {pattern : Pattern} (filled : 0 < pattern.minLength)
    (closes : pattern.mayClose '\r' = false) (line : List Char) :
    pattern.findAll (line ++ ['\r']) = pattern.findAll line := by
  refine findAll_append_right filled line ['\r'] (fun _ => by decide) fun start stop spelled => ?_
  refine Nat.le_of_not_lt fun beyond => ?_
  have consumes := spelled.add_minLength_le
  have bound := spelled.le_max_length
  rw [List.length_append, List.length_singleton] at bound
  obtain rfl : stop = line.length + 1 := by omega
  have last : Text.before? (line ++ ['\r']) (line.length + 1) = some '\r' := by
    rw [Text.before?_succ, List.getElem?_concat_length]
  exact absurd (spelled.mayClose (by omega) last) (by simp [closes])

/-- A finding, and the one on the same occurrence in the changed text: they are alike, but the
description of the second may have one more carriage return at its end. -/
structure AlikeButReturn (finding again : Finding) : Prop where
  subject : again.subject = finding.subject
  lineNumber : again.lineNumber = finding.lineNumber
  severity : again.severity = finding.severity
  rule : again.rule = finding.rule
  description : again.description = finding.description ∨
    again.description = finding.description ++ "\r"

theorem AlikeButReturn.refl (finding : Finding) : AlikeButReturn finding finding :=
  ⟨rfl, rfl, rfl, rfl, Or.inl rfl⟩

namespace LinePass

theorem excerpt_append_return {line : List Char} {found : Match}
    (inside : found.start ≤ line.length) :
    excerpt (line ++ ['\r']) found = excerpt line found ∨
      excerpt (line ++ ['\r']) found = excerpt line found ++ ['\r'] := by
  rw [excerpt, excerpt, List.drop_append_of_le_length (by omega), List.take_append]
  cases found.text.length + contextAfter - (line.drop (found.start - contextBefore)).length with
  | zero => exact Or.inl (List.append_nil _)
  | succ room => exact Or.inr (by rw [List.take_succ_cons, List.take_nil])

theorem lineFindings_append_return (number : Int) (line : List Char) :
    List.Forall₂ AlikeButReturn (lineFindings number line)
      (lineFindings number (line ++ ['\r'])) := by
  have ends : ∀ entry ∈ Catalog.lineEntries, entry.pattern.mayClose '\r' = false := by decide
  have entries : List.Forall₂ (fun entry again => entry = again ∧ entry ∈ Catalog.lineEntries)
      Catalog.lineEntries Catalog.lineEntries :=
    List.forall₂_same.mpr fun _ listed => ⟨rfl, listed⟩
  have accesses :
      Catalog.arrayAccess.findAll (line ++ ['\r']) = Catalog.arrayAccess.findAll line :=
    Pattern.findAll_append_return (by decide) (by decide) line
  rw [lineFindings, lineFindings, accesses]
  refine List.rel_append (List.rel_flatMap entries ?_)
    (List.forall₂_same.mpr fun finding _ => AlikeButReturn.refl finding)
  rintro entry _ ⟨rfl, listed⟩
  beta_reduce
  rw [Pattern.findAll_append_return (Catalog.entry_filled listed) (ends entry listed),
    List.forall₂_map_left_iff, List.forall₂_map_right_iff]
  refine List.forall₂_same.mpr fun found member => ?_
  have spelled := Pattern.Spells.of_mem (entry_occurs listed member).mem
  have bound := spelled.le_max_length
  have consumes := spelled.add_minLength_le
  have filled := Catalog.entry_filled listed
  refine ⟨rfl, rfl, rfl, rfl, ?_⟩
  simp only [entryFinding]
  rcases excerpt_append_return (by omega : found.start ≤ line.length) with same | longer
  · exact Or.inl (by rw [same])
  · exact Or.inr (by rw [longer, String.ofList_append, ← String.append_assoc])

theorem findingsFrom_crlf (number : Nat) (text : List Char) :
    List.Forall₂ AlikeButReturn (findingsFrom number (Text.lines text))
      (findingsFrom number (Text.lines (crlf text))) := by
  induction text using Text.lines_induction generalizing number with
  | empty => exact List.Forall₂.nil
  | last line plain nonempty =>
      rw [Text.crlf_of_plain plain]
      exact List.forall₂_same.mpr fun finding _ => AlikeButReturn.refl finding
  | step line rest plain ih =>
      have changed : crlf (line ++ '\n' :: rest) = (line ++ ['\r']) ++ '\n' :: crlf rest := by
        rw [Text.crlf_append, Text.crlf_of_plain plain, Text.crlf_feed, List.append_assoc]
        rfl
      have unbroken : '\n' ∉ line ++ ['\r'] := by simpa using plain
      rw [changed, Text.lines_append_feed line rest plain, Text.lines_append_feed _ _ unbroken,
        findingsFrom, findingsFrom]
      exact List.rel_append (lineFindings_append_return number line) (ih (number + 1))

end LinePass

/-- The style of the line endings does not change what is found: with a carriage return in front of
every line feed of a text, the loop pass and the function pass find the same, and the findings of
the line pass are alike one by one, but for a carriage return at the end of a description. -/
theorem line_endings_keep_findings (text : List Char) :
    LoopPass.findings (crlf text) = LoopPass.findings text ∧
    FunctionPass.findings (crlf text) = FunctionPass.findings text ∧
    List.Forall₂ AlikeButReturn (LinePass.findings text) (LinePass.findings (crlf text)) :=
  ⟨LoopPass.findings_crlf text, FunctionPass.findings_crlf text, LinePass.findingsFrom_crlf 1 text⟩

end OverflowScan
