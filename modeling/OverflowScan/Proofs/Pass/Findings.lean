import OverflowScan.Pass.Function
import OverflowScan.Pass.Loop
import OverflowScan.Proofs.Catalog.Spelling
import OverflowScan.Proofs.Text.Lines

set_option autoImplicit false

namespace OverflowScan

namespace Catalog

theorem entry_filled {entry : Catalog.Entry} (listed : entry ∈ lineEntries) :
    0 < entry.pattern.minLength :=
  minLength_pos entry.pattern (List.mem_append_left _ (List.mem_map_of_mem listed))

/-- Only the unsafe calls have a group. -/
theorem entry_cases {entry : Catalog.Entry} (listed : entry ∈ lineEntries) :
    entry = unsafeCall ∨ entry.pattern.groupNumbers = [] := by
  simp only [lineEntries, List.mem_cons, List.not_mem_nil, or_false] at listed
  rcases listed with rfl | rfl | rfl | rfl | rfl | rfl
  · exact Or.inl rfl
  all_goals exact Or.inr rfl

end Catalog

namespace LinePass

open Catalog

variable {line : List Char} {number : Int} {entry : Catalog.Entry} {found : Match}

theorem mem_findings (text : List Char) (finding : Finding) :
    finding ∈ findings text ↔
      ∃ index line, (Text.lines text)[index]? = some line ∧
        finding ∈ lineFindings ((index + 1 : Nat) : Int) line := by
  rw [findings, findingsFrom_eq_flatMap, List.mem_flatMap]
  constructor
  · rintro ⟨⟨line, number⟩, numbered, member⟩
    obtain ⟨positive, lookup⟩ := List.mk_mem_zipIdx_iff_le_and_getElem?_sub.mp numbered
    exact ⟨number - 1, line, lookup, by rwa [Nat.sub_add_cancel positive]⟩
  · rintro ⟨index, line, lookup, member⟩
    refine ⟨(line, index + 1), List.mk_mem_zipIdx_iff_le_and_getElem?_sub.mpr ?_, member⟩
    exact ⟨Nat.le_add_left 1 index, lookup⟩

theorem mem_lineFindings (number : Int) (line : List Char) (finding : Finding) :
    finding ∈ lineFindings number line ↔
      (∃ entry ∈ lineEntries, ∃ found ∈ entry.pattern.findAll line,
        finding = entryFinding number line entry found) ∨
      ∃ found ∈ arrayAccess.findAll line, accessFinding? number found = some finding := by
  simp [lineFindings, eq_comm]

theorem entry_occurs (listed : entry ∈ lineEntries) (member : found ∈ entry.pattern.findAll line) :
    entry.pattern.Occurs line found :=
  Pattern.occurs_of_mem_occurrences entry.pattern line (entry_filled listed) 0 found member

theorem subject_of_group {name : List Char} (groups : found.groups = [(1, name)]) :
    subject found = String.ofList name := by
  simp [subject, Match.group?, groups]

theorem subject_of_no_group (occurs : entry.pattern.Occurs line found)
    (groups : found.groups = []) :
    subject found = String.ofList (Text.slice line found.start found.stop) := by
  simp [subject, Match.group?, groups, occurs.shown]

theorem subject_in_line (listed : entry ∈ lineEntries)
    (occurs : entry.pattern.Occurs line found) :
    (subject found).toList <:+: line ∧
      ∃ word ∈ entry.pattern.openings, word <+: (subject found).toList := by
  rcases entry_cases listed with rfl | silent
  · obtain ⟨name, named, paren, parts, -, groups⟩ := mem_outcomes_unsafeCall.mp occurs.mem
    rw [subject_of_group groups, String.toList_ofList]
    exact ⟨parts.keyword.isInfix.trans (List.drop_suffix found.start line).isInfix, name, named,
      List.prefix_refl name⟩
  · have groups := Pattern.groups_eq_nil silent occurs.mem
    obtain ⟨word, opening, stands, within⟩ := (Pattern.Spells.of_mem occurs.mem).opens
    rw [subject_of_no_group occurs groups, String.toList_ofList]
    exact ⟨Text.slice_infix line found.start found.stop, word, opening,
      Text.prefix_slice line word found.start found.stop stands within⟩

theorem excerpt_infix (line : List Char) (found : Match) : excerpt line found <:+: line :=
  (List.take_prefix _ _).isInfix.trans (List.drop_suffix _ line).isInfix

/-- The subject of an entry is never the subject of the array accesses. -/
theorem subject_ne_accessSubject (listed : entry ∈ lineEntries)
    (occurs : entry.pattern.Occurs line found) : subject found ≠ accessSubject := by
  have apart : ∀ entry ∈ lineEntries, ∀ word ∈ entry.pattern.openings,
      ¬ word <+: accessSubject.toList := by decide
  obtain ⟨-, word, opening, opens⟩ := subject_in_line listed occurs
  intro same
  rw [same] at opens
  exact apart entry listed word opening opens

/-- A finding on an array access names an identifier that stands between brackets in the line. -/
theorem accessFinding?_eq_some (finding : Finding) (occurs : arrayAccess.Occurs line found)
    (reported : accessFinding? number found = some finding) :
    ∃ index, IsIdentifier index ∧ '[' :: (index ++ [']']) <:+: line ∧
      finding = ⟨accessSubject, number, accessDescription index, .medium, name⟩ := by
  obtain ⟨close, opened, filled, -, closed, -, groups⟩ :=
    mem_outcomes_arrayAccess.mp occurs.mem
  have index : found.group? 1 = some (Text.slice line (found.start + 1) close) := by
    simp [Match.group?, groups]
  have bracketed : Text.slice line found.start (close + 1) =
      '[' :: (Text.slice line (found.start + 1) close ++ [']']) := by
    rw [← Text.slice_append line found.start (found.start + 1) (close + 1) (by omega) (by omega),
      ← Text.slice_append line (found.start + 1) close (close + 1) (by omega) (by omega),
      Text.slice_singleton opened, Text.slice_singleton closed]
    rfl
  rw [accessFinding?, index] at reported
  by_cases bare : (identifier.matchWhole? (Text.slice line (found.start + 1) close)).isSome
  · refine ⟨Text.slice line (found.start + 1) close, (identifier_matchWhole?_iff _).mp bare, ?_, ?_⟩
    · rw [← bracketed]
      exact Text.slice_infix line found.start (close + 1)
    · simpa [bare] using reported.symm
  · simp [bare] at reported

end LinePass

theorem LoopPass.loopFinding?_eq_some_iff (text : List Char) (found : Match) (finding : Finding) :
    loopFinding? text found = some finding ↔
      (Catalog.bodyAccess.occursIn ((found.group? 4).getD []) ∧
        ¬ Catalog.boundCheck.occursIn ((found.group? 2).getD [])) ∧
      finding = ⟨subject, Text.lineNumberAt text found.start, description, .medium, name⟩ := by
  simp only [loopFinding?, Option.ite_none_right_eq_some, Option.some.injEq]
  exact and_congr_right fun _ => eq_comm

theorem FunctionPass.functionFinding?_eq_some_iff (text : List Char) (found : Match)
    (finding : Finding) :
    functionFinding? text found = some finding ↔
      Catalog.pointerParameter.occursIn ((found.group? 3).getD []) ∧
      (∃ body, Text.bodyAt? text ((found.stop : Int) - 1) = some body ∧
        Catalog.assignment.occursIn body) ∧
      finding = ⟨String.ofList ((found.group? 2).getD []), Text.lineNumberAt text found.start,
        description, .medium, name⟩ := by
  simp only [functionFinding?, Option.ite_none_right_eq_some]
  refine and_congr_right fun _ => ?_
  cases Text.bodyAt? text ((found.stop : Int) - 1) with
  | none => simp
  | some body =>
      simp only [Option.ite_none_right_eq_some, Option.some.injEq, exists_eq_left']
      exact and_congr_right fun _ => eq_comm

end OverflowScan
