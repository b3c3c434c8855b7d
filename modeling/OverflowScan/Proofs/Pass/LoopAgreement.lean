import OverflowScan.Proofs.Catalog.Heads
import OverflowScan.Proofs.Pass.Headings

set_option autoImplicit false

namespace OverflowScan

theorem Pattern.Spells.in_line {pattern : Pattern} {text : List Char} {start stop : Nat}
    (spelled : pattern.Spells text start stop) (edgeless : pattern.hasBoundary = false)
    (filled : start < stop) (plain : '\n' ∉ Text.slice text start stop) :
    ∃ line, (Text.lines text)[Text.lineNumberAt text start - 1]? = some line ∧
      ∃ first last, pattern.Spells line first last := by
  have bound := spelled.le_max_length
  have width := Text.length_slice text start stop (by omega)
  have nonempty : Text.slice text start stop ≠ [] := List.ne_nil_of_length_pos (by omega)
  have alone : pattern.Spells (Text.slice text start stop) 0 (stop - start) := by
    rw [spells_slice_iff edgeless (by omega) (by omega), Nat.add_zero,
      Nat.add_sub_cancel' (by omega)]
    exact spelled
  obtain ⟨line, lookup, front, behind, split⟩ := Text.word_in_line text _ start plain nonempty
    (Text.slice_prefix_drop text start stop)
  have free (absent : Prop) : pattern.hasBoundary → absent := by simp [edgeless]
  have inside : pattern.Spells (Text.slice text start stop ++ behind) 0 (stop - start) :=
    (spells_append_right behind (free _) (by omega)).mpr alone
  refine ⟨line, lookup, front.length + 0, front.length + (stop - start), ?_⟩
  rw [← split, List.append_assoc, spells_append_left front (free _)]
  exact inside

namespace Catalog

/-- A loop whose body indexes an array is a loop with an access, which ends inside it. -/
theorem loopWithAccess_of_loop {text : List Char} {found : Match} (occurs : loop.Occurs text found)
    (access : bodyAccess.occursIn ((found.group? 4).getD [])) :
    ∃ stop ≤ found.stop, loopWithAccess.pattern.Spells text found.start stop := by
  obtain ⟨paren, first, second, close, brace, last, head, body, ended, stop, groups⟩ :=
    mem_outcomes_loop.mp occurs.mem
  have shown : (found.group? 4).getD [] = Text.slice text (brace + 1) last := by
    simp [Match.group?, groups]
  have bound : last < text.length := (List.getElem?_eq_some_iff.mp ended).1
  have width := Text.length_slice text (brace + 1) last (by omega)
  have order := body.1
  rw [shown, Pattern.occursIn_iff bodyAccess _ (by decide)] at access
  obtain ⟨bracket, after, spelled⟩ := access
  have consumes : bracket + 3 ≤ after := spelled.add_minLength_le
  have within := spelled.le_max_length
  rw [Pattern.spells_slice_iff rfl (by omega) (by omega)] at spelled
  obtain ⟨closing, opened, filled, index, closed, stops⟩ := spells_bodyAccess.mp spelled
  have shorter : Text.Run (CharClass.butNot '\x7d').holds text (brace + 1) (brace + 1 + bracket) :=
    ⟨Nat.le_add_right _ _, fun i lower upper => body.2 i lower (by omega)⟩
  exact ⟨closing + 1, by omega, head.spells_loopWithAccess shorter opened index closed⟩

end Catalog

theorem LinePass.reports_loop {text : List Char} {found : Match}
    (member : found ∈ Catalog.loop.findAll text) (plain : '\n' ∉ found.text)
    (access : Catalog.bodyAccess.occursIn ((found.group? 4).getD [])) :
    ∃ finding ∈ findings text, finding.rule = name ∧
      finding.lineNumber = Text.lineNumberAt text found.start ∧
      Catalog.loopWithAccess.heading <+: finding.description.toList := by
  have listed : Catalog.loopWithAccess ∈ Catalog.lineEntries := by simp [Catalog.lineEntries]
  have occurs := Pattern.occurs_of_mem_occurrences Catalog.loop text (by decide) 0 found member
  obtain ⟨stop, within, spelled⟩ := Catalog.loopWithAccess_of_loop occurs access
  have order := spelled.le
  have unbroken : '\n' ∉ Text.slice text found.start stop := by
    intro feed
    rw [occurs.shown, ← Text.slice_append text found.start stop found.stop order within] at plain
    exact plain (List.mem_append_left _ feed)
  have filled : found.start < stop :=
    Nat.lt_of_lt_of_le (Nat.lt_add_of_pos_right (Catalog.entry_filled listed))
      spelled.add_minLength_le
  obtain ⟨line, lookup, first, last, inLine⟩ := spelled.in_line rfl filled unbroken
  have leftmost := Pattern.leftmost_occurrences Catalog.loopWithAccess.pattern line
    (Catalog.entry_filled listed) 0
  -- The search in the line may have begun a match earlier, but it does not miss this one.
  obtain ⟨m, among, -⟩ := leftmost.covered first last (Nat.zero_le first) inLine
  refine ⟨_, (mem_findings text _).mpr ⟨_, line, lookup, (mem_lineFindings _ line _).mpr
    (Or.inl ⟨Catalog.loopWithAccess, listed, m, among, rfl⟩)⟩, rfl, ?_, heading_opens _ line _ m⟩
  rw [Text.lineNumberAt_natCast]
  rfl

/-- The two loop detectors agree: whatever the bytes of a file are, a loop in one line that the loop
pass reports is reported by the line pass of the same scan, under the same line number. -/
theorem scan_loop_detectors_agree (source : String) (bytes : List UInt8) :
    ∃ result, (Scan.run source (.ok bytes)).2 = .ok result ∧
      ∀ found ∈ Catalog.loop.findAll (Utf8.decode bytes), '\n' ∉ found.text →
        ∀ finding, LoopPass.loopFinding? (Utf8.decode bytes) found = some finding →
          finding ∈ result.findings ∧
          ∃ other ∈ result.findings, other.rule = LinePass.name ∧
            other.lineNumber = finding.lineNumber ∧
            "Loop with array access in context: ".toList <+: other.description.toList := by
  refine ⟨_, Scan.run_ok source bytes, fun found member plain finding reported => ?_⟩
  obtain ⟨⟨access, -⟩, shown⟩ := (LoopPass.loopFinding?_eq_some_iff _ found finding).mp reported
  obtain ⟨other, inLine, rule, number, heading⟩ := LinePass.reports_loop member plain access
  rw [ScanResult.addAll_new_findings]
  refine ⟨(Scan.mem_findings _ _).mpr (Or.inr (Or.inl ?_)), other,
    (Scan.mem_findings _ _).mpr (Or.inl inLine), rule, ?_, heading⟩
  · exact List.mem_filterMap.mpr ⟨found, member, reported⟩
  · rw [number, shown]

theorem one_line_loop_reported_twice :
    ∃ result,
      (Scan.run "a.c" (.ok (Utf8.encode "i;\nfor(;i<n;)\x7ba[i];\x7d".toList))).2 = .ok result ∧
      ∃ other ∈ result.findings, other.rule = LinePass.name ∧ other.lineNumber = 2 ∧
        "Loop with array access in context: ".toList <+: other.description.toList := by
  obtain ⟨result, ran, agree⟩ :=
    scan_loop_detectors_agree "a.c" (Utf8.encode "i;\nfor(;i<n;)\x7ba[i];\x7d".toList)
  have decoded : Utf8.decode (Utf8.encode "i;\nfor(;i<n;)\x7ba[i];\x7d".toList) =
      "i;\nfor(;i<n;)\x7ba[i];\x7d".toList := by decide +kernel
  rw [decoded] at agree
  have found : (⟨3, 20, "for(;i<n;)\x7ba[i];\x7d".toList,
      [(4, "a[i];".toList), (3, []), (2, "i<n".toList), (1, [])]⟩ : Match) ∈
      Catalog.loop.findAll "i;\nfor(;i<n;)\x7ba[i];\x7d".toList := by decide +kernel
  obtain ⟨-, other, member, rule, number, heading⟩ := agree _ found (by decide)
    ⟨LoopPass.subject, 2, LoopPass.description, .medium, LoopPass.name⟩ (by decide +kernel)
  exact ⟨result, ran, other, member, rule, number, heading⟩

end OverflowScan
