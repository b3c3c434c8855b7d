import OverflowScan.Proofs.Catalog.Matching
import OverflowScan.Proofs.Pass.Findings
import OverflowScan.Proofs.Scan

set_option autoImplicit false

namespace OverflowScan

open Catalog

/-- A pass over a source does to a result what it does to an empty one: it fails alike, or it leaves
what there is in place, appends the same findings, counts them, and logs the same records. -/
structure Pass.AppendsAlone (pass : Pass) (content : Except Failure (List UInt8))
    (result : ScanResult) : Prop where
  failed : ∀ failure, pass.apply content { source := "" } = .error failure →
    pass.apply content result = .error failure
  grown : ∀ alone records, pass.apply content { source := "" } = .ok (alone, records) →
    ∃ grown, pass.apply content result = .ok (grown, records) ∧ grown.source = result.source ∧
      grown.findings = result.findings ++ alone.findings ∧
      ∀ severity, grown.summary.count severity = result.summary.count severity +
        alone.findings.countP fun finding => finding.severity = severity

namespace Pass

/-- A pass looks at nothing but the source: it adds to any result what it adds to an empty one. -/
theorem apply_eq_map (pass : Pass) (content : Except Failure (List UInt8)) (result : ScanResult) :
    pass.apply content result =
      (pass.apply content { source := "" }).map fun ran =>
        (result.addAll ran.1.findings, ran.2) := by
  cases content with
  | ok bytes =>
      simp only [apply, Except.map, ScanResult.addAll_findings, List.nil_append]
  | error failure => cases pass <;> cases failure <;> rfl

theorem appendsAlone (pass : Pass) (content : Except Failure (List UInt8)) (result : ScanResult) :
    pass.AppendsAlone content result := by
  constructor
  · intro failure failed
    rw [apply_eq_map, failed]
    rfl
  · intro alone records ran
    refine ⟨result.addAll alone.findings, ?_, ScanResult.addAll_source _ _,
      ScanResult.addAll_findings _ _, ScanResult.addAll_count _ _⟩
    rw [apply_eq_map, ran]
    rfl

end Pass

theorem LinePass.rule_eq (text : List Char) :
    ∀ finding ∈ findings text, finding.rule = LinePass.name := by
  intro finding member
  obtain ⟨index, line, -, member⟩ := (mem_findings text finding).mp member
  rcases (mem_lineFindings _ line finding).mp member with
    ⟨entry, -, found, -, rfl⟩ | ⟨found, among, reported⟩
  · rfl
  · have occurs := Pattern.occurs_of_mem_occurrences arrayAccess line (by decide) 0 found among
    obtain ⟨bare, -, -, rfl⟩ := accessFinding?_eq_some finding occurs reported
    rfl

theorem LoopPass.rule_eq (text : List Char) :
    ∀ finding ∈ findings text, finding.rule = LoopPass.name := by
  intro finding member
  obtain ⟨found, -, reported⟩ := List.mem_filterMap.mp member
  obtain ⟨-, rfl⟩ := (loopFinding?_eq_some_iff text found finding).mp reported
  rfl

theorem FunctionPass.rule_eq (text : List Char) :
    ∀ finding ∈ findings text, finding.rule = FunctionPass.name := by
  intro finding member
  obtain ⟨found, -, reported⟩ := List.mem_filterMap.mp member
  obtain ⟨-, -, rfl⟩ := (functionFinding?_eq_some_iff text found finding).mp reported
  rfl

theorem Pass.rule_eq (pass : Pass) (text : List Char) :
    ∀ finding ∈ pass.findings text, finding.rule = pass.name := by
  cases pass with
  | line => exact LinePass.rule_eq text
  | loop => exact LoopPass.rule_eq text
  | function => exact FunctionPass.rule_eq text

def LinesAscend (findings : List Finding) : Prop :=
  findings.Pairwise fun first second => first.lineNumber ≤ second.lineNumber

theorem linesAscend_filterMap {pattern : Pattern} {text : List Char}
    {report : Match → Option Finding} (filled : 0 < pattern.minLength)
    (numbered : ∀ found finding, report found = some finding →
      finding.lineNumber = Text.lineNumberAt text found.start) :
    LinesAscend ((pattern.findAll text).filterMap report) := by
  apply List.Pairwise.filterMap report ?_ (pattern.matchesLeftmost text filled).apart
  intro left right apart first fromLeft second fromRight
  rw [numbered left first fromLeft, numbered right second fromRight]
  have order := Text.lineNumberAt_le text (Nat.le_of_lt apart.1)
  omega

theorem LoopPass.linesAscend (text : List Char) : LinesAscend (findings text) := by
  apply linesAscend_filterMap (by decide)
  intro found finding reported
  obtain ⟨-, rfl⟩ := (loopFinding?_eq_some_iff text found finding).mp reported
  rfl

theorem FunctionPass.linesAscend (text : List Char) : LinesAscend (findings text) := by
  apply linesAscend_filterMap (by decide)
  intro found finding reported
  obtain ⟨-, -, rfl⟩ := (functionFinding?_eq_some_iff text found finding).mp reported
  rfl

/-- Where a finding of the line pass comes from: a physical line, the slot in which a pattern is
looked for there, and an occurrence. The entries of the catalog have the first slots, in their
order; array accesses have the slot after them. -/
structure Origin where
  number : Nat
  slot : Nat
  found : Match

/-- An origin comes before another: it is in an earlier line, or in the same line but in an earlier
slot, or in the same slot but further left. -/
def Origin.Before (first second : Origin) : Prop :=
  first.number < second.number ∨ (first.number = second.number ∧
    (first.slot < second.slot ∨
      (first.slot = second.slot ∧ first.found.start < second.found.start)))

def Origin.ReportsIn (line : List Char) (origin : Origin) (finding : Finding) : Prop :=
  (∃ entry, lineEntries[origin.slot]? = some entry ∧
      origin.found ∈ entry.pattern.findAll line ∧
      finding = LinePass.entryFinding origin.number line entry origin.found) ∨
    (origin.slot = lineEntries.length ∧ origin.found ∈ arrayAccess.findAll line ∧
      LinePass.accessFinding? origin.number origin.found = some finding)

/-- Findings with their origins: they are in order, and they are all that the line pass reports on
any occurrence in any line. -/
structure Traces (text : List Char) (findings : List Finding)
    (trace : List (Origin × Finding)) : Prop where
  shown : trace.map Prod.snd = findings
  ordered : trace.Pairwise fun first second => first.1.Before second.1
  complete : ∀ origin finding, (origin, finding) ∈ trace ↔
    ∃ line, 1 ≤ origin.number ∧ (Text.lines text)[origin.number - 1]? = some line ∧
      origin.ReportsIn line finding

namespace LinePass

variable (number : Nat) (line : List Char)

def entryTrace (slotted : Catalog.Entry × Nat) : List (Origin × Finding) :=
  (slotted.1.pattern.findAll line).map fun found =>
    (⟨number, slotted.2, found⟩, entryFinding number line slotted.1 found)

def accessTrace : List (Origin × Finding) :=
  (arrayAccess.findAll line).filterMap fun found =>
    (accessFinding? number found).map fun finding => (⟨number, lineEntries.length, found⟩, finding)

def lineTrace : List (Origin × Finding) :=
  lineEntries.zipIdx.flatMap (entryTrace number line) ++ accessTrace number line

def trace (text : List Char) : List (Origin × Finding) :=
  ((Text.lines text).zipIdx 1).flatMap fun numbered => lineTrace numbered.2 numbered.1

theorem map_snd_lineTrace : (lineTrace number line).map Prod.snd = lineFindings number line := by
  have entries (report : Catalog.Entry → List Finding) :
      lineEntries.zipIdx.flatMap (fun slotted => report slotted.1) =
        lineEntries.flatMap report := by
    rw [← List.flatMap_map Prod.fst report, List.zipIdx_map_fst]
  have accesses : (accessTrace number line).map Prod.snd =
      (arrayAccess.findAll line).filterMap (accessFinding? number) := by
    simp [accessTrace, List.map_filterMap, Function.comp_def]
  rw [lineTrace, lineFindings, List.map_append, accesses, List.map_flatMap, ← entries]
  simp [entryTrace, Function.comp_def]

theorem mem_lineTrace (origin : Origin) (finding : Finding) :
    (origin, finding) ∈ lineTrace number line ↔
      origin.number = number ∧ origin.ReportsIn line finding := by
  obtain ⟨place, slot, found⟩ := origin
  simp only [lineTrace, List.mem_append, List.mem_flatMap, Origin.ReportsIn]
  constructor
  · rintro (⟨⟨entry, index⟩, slotted, member⟩ | member)
    · obtain ⟨again, among, same⟩ := List.mem_map.mp member
      cases same
      exact ⟨rfl, Or.inl ⟨entry, List.mem_zipIdx_iff_getElem?.mp slotted, among, rfl⟩⟩
    · obtain ⟨again, among, mapped⟩ := List.mem_filterMap.mp member
      obtain ⟨shown, reported, same⟩ := Option.map_eq_some_iff.mp mapped
      cases same
      exact ⟨rfl, Or.inr ⟨rfl, among, reported⟩⟩
  · rintro ⟨rfl, ⟨entry, slotted, among, rfl⟩ | ⟨rfl, among, reported⟩⟩
    · apply Or.inl
      exact ⟨(entry, slot), List.mem_zipIdx_iff_getElem?.mpr slotted,
        List.mem_map.mpr ⟨found, among, rfl⟩⟩
    · apply Or.inr
      exact List.mem_filterMap.mpr ⟨found, among, by rw [reported]; rfl⟩

theorem mem_entryTrace {slotted : Catalog.Entry × Nat} {shown : Origin × Finding}
    (member : shown ∈ entryTrace number line slotted) :
    shown.1.number = number ∧ shown.1.slot = slotted.2 := by
  obtain ⟨found, -, rfl⟩ := List.mem_map.mp member
  exact ⟨rfl, rfl⟩

theorem mem_accessTrace {shown : Origin × Finding} (member : shown ∈ accessTrace number line) :
    shown.1.number = number ∧ shown.1.slot = lineEntries.length := by
  obtain ⟨found, -, mapped⟩ := List.mem_filterMap.mp member
  obtain ⟨finding, -, rfl⟩ := Option.map_eq_some_iff.mp mapped
  exact ⟨rfl, rfl⟩

theorem entryTrace_ordered {slotted : Catalog.Entry × Nat}
    (listed : slotted.1 ∈ lineEntries) :
    (entryTrace number line slotted).Pairwise fun first second => first.1.Before second.1 := by
  have apart := (slotted.1.pattern.matchesLeftmost line (entry_filled listed)).apart
  apply List.pairwise_map.mpr
  apply apart.imp
  intro left right order
  exact Or.inr ⟨rfl, Or.inr ⟨rfl, order.1⟩⟩

theorem accessTrace_ordered :
    (accessTrace number line).Pairwise fun first second => first.1.Before second.1 := by
  apply List.Pairwise.filterMap _ ?_ (arrayAccess.matchesLeftmost line (by decide)).apart
  intro left right order first fromLeft second fromRight
  obtain ⟨-, -, rfl⟩ := Option.map_eq_some_iff.mp fromLeft
  obtain ⟨-, -, rfl⟩ := Option.map_eq_some_iff.mp fromRight
  exact Or.inr ⟨rfl, Or.inr ⟨rfl, order.1⟩⟩

theorem pairwise_zipIdx {α : Type} (items : List α) (first : Nat) :
    (items.zipIdx first).Pairwise fun left right => left.2 < right.2 := by
  apply List.pairwise_map.mp
  rw [List.zipIdx_map_snd]
  exact List.pairwise_lt_range'

theorem lineTrace_ordered :
    (lineTrace number line).Pairwise fun first second => first.1.Before second.1 := by
  refine List.pairwise_append.mpr ⟨List.pairwise_flatMap.mpr ⟨?_, (pairwise_zipIdx _ 0).imp ?_⟩,
    accessTrace_ordered number line, ?_⟩
  · intro slotted member
    apply entryTrace_ordered
    exact List.mem_of_getElem? (List.mem_zipIdx_iff_getElem?.mp member)
  · intro left right order first fromLeft second fromRight
    have leftPlace := mem_entryTrace number line fromLeft
    have rightPlace := mem_entryTrace number line fromRight
    exact Or.inr ⟨by omega, Or.inl (by omega)⟩
  · intro first fromEntry second fromAccess
    obtain ⟨slotted, member, fromEntry⟩ := List.mem_flatMap.mp fromEntry
    have inside := (List.getElem?_eq_some_iff.mp (List.mem_zipIdx_iff_getElem?.mp member)).1
    have entryPlace := mem_entryTrace number line fromEntry
    have accessPlace := mem_accessTrace number line fromAccess
    exact Or.inr ⟨by omega, Or.inl (by omega)⟩

theorem traces (text : List Char) : Traces text (findings text) (trace text) := by
  constructor
  · rw [findings, findingsFrom_eq_flatMap, trace, List.map_flatMap]
    simp only [map_snd_lineTrace]
  · refine List.pairwise_flatMap.mpr
      ⟨fun numbered _ => lineTrace_ordered numbered.2 numbered.1,
        (pairwise_zipIdx _ 1).imp ?_⟩
    intro left right order first fromLeft second fromRight
    have leftNumber := ((mem_lineTrace _ _ first.1 first.2).mp fromLeft).1
    have rightNumber := ((mem_lineTrace _ _ second.1 second.2).mp fromRight).1
    exact Or.inl (by omega)
  · intro origin finding
    simp only [trace, List.mem_flatMap, mem_lineTrace]
    constructor
    · rintro ⟨⟨line, number⟩, numbered, rfl, reports⟩
      obtain ⟨positive, lookup⟩ := List.mk_mem_zipIdx_iff_le_and_getElem?_sub.mp numbered
      exact ⟨line, positive, lookup, reports⟩
    · rintro ⟨line, positive, lookup, reports⟩
      exact ⟨(line, origin.number),
        List.mk_mem_zipIdx_iff_le_and_getElem?_sub.mpr ⟨positive, lookup⟩, rfl, reports⟩

end LinePass

theorem Origin.ReportsIn.lineNumber {line : List Char} {origin : Origin} {finding : Finding}
    (reports : origin.ReportsIn line finding) : finding.lineNumber = origin.number := by
  rcases reports with ⟨entry, -, -, rfl⟩ | ⟨-, among, reported⟩
  · rfl
  · have occurs := Pattern.occurs_of_mem_occurrences arrayAccess line (by decide) 0 _ among
    obtain ⟨bare, -, -, rfl⟩ := LinePass.accessFinding?_eq_some finding occurs reported
    rfl

theorem LinePass.linesAscend (text : List Char) : LinesAscend (findings text) := by
  have traced := traces text
  rw [← traced.shown]
  apply List.pairwise_map.mpr
  apply traced.ordered.imp_of_mem
  intro first second fromFirst fromSecond before
  obtain ⟨line, -, -, reports⟩ := (traced.complete first.1 first.2).mp fromFirst
  obtain ⟨other, -, -, reportsToo⟩ := (traced.complete second.1 second.2).mp fromSecond
  rw [reports.lineNumber, reportsToo.lineNumber]
  unfold Origin.Before at before
  omega

theorem Pass.linesAscend (pass : Pass) (text : List Char) : LinesAscend (pass.findings text) := by
  cases pass with
  | line => exact LinePass.linesAscend text
  | loop => exact LoopPass.linesAscend text
  | function => exact FunctionPass.linesAscend text

/-- The findings of one pass in a file: what it adds to an empty result, tagged with its name, from
the first line to the last. -/
structure Pass.Block (pass : Pass) (bytes : List UInt8) (block : List Finding) : Prop where
  alone : ∃ alone records,
    pass.apply (.ok bytes) { source := "" } = .ok (alone, records) ∧ alone.findings = block
  tagged : ∀ finding ∈ block, finding.rule = pass.name
  ascending : LinesAscend block

theorem Pass.block (pass : Pass) (bytes : List UInt8) :
    pass.Block bytes (pass.findings (Utf8.decode bytes)) := by
  refine ⟨⟨_, _, rfl, ?_⟩, pass.rule_eq _, pass.linesAscend _⟩
  exact ScanResult.addAll_new_findings _ _

/-- Passes only append, and what one appends does not depend on what there is. So a scan of a file
that can be read reports the blocks of the three passes one after the other, and the line pass
reports line by line, entry by entry, then the array accesses, each from left to right. -/
theorem passes_append_in_order :
    (∀ (pass : Pass) (content : Except Failure (List UInt8)) (result : ScanResult),
      pass.AppendsAlone content result) ∧
    ∀ (source : String) (bytes : List UInt8), ∃ result lines loops functions,
      (Scan.run source (.ok bytes)).2 = .ok result ∧ result.source = source ∧
      result.findings = lines ++ loops ++ functions ∧
      Pass.line.Block bytes lines ∧ Pass.loop.Block bytes loops ∧
      Pass.function.Block bytes functions ∧ ∃ trace, Traces (Utf8.decode bytes) lines trace := by
  refine ⟨Pass.appendsAlone, ?_⟩
  intro source bytes
  refine ⟨_, _, _, _, Scan.run_ok source bytes, ScanResult.addAll_source _ _, ?_,
    Pass.line.block bytes, Pass.loop.block bytes, Pass.function.block bytes, _,
    LinePass.traces (Utf8.decode bytes)⟩
  rw [ScanResult.addAll_new_findings]
  simp [Scan.findings, Pass.all]

end OverflowScan
