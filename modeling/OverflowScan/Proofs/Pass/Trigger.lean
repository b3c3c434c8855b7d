import OverflowScan.Proofs.Pass.Findings
import OverflowScan.Proofs.Scan

set_option autoImplicit false

namespace OverflowScan

/-- What a line of a text holds of a finding, pass by pass. -/
structure HoldsTrigger (text line : List Char) (finding : Finding) : Prop where
  access : finding.rule = LinePass.name → finding.subject = LinePass.accessSubject →
    ∃ index,
      finding.description = "Unchecked array access with variable: " ++ String.ofList index ∧
        Catalog.IsIdentifier index ∧ '[' :: (index ++ [']']) <:+: line
  entry : finding.rule = LinePass.name → finding.subject ≠ LinePass.accessSubject →
    finding.subject.toList <:+: line ∧
      ∃ entry ∈ Catalog.lineEntries, ∃ excerpt,
        finding.description = entry.description ++ " in context: " ++ String.ofList excerpt ∧
          excerpt <:+: line
  loop : finding.rule = LoopPass.name → "for".toList <:+: line
  /-- A function: its return type; the name may stand on a later line. -/
  function : finding.rule = FunctionPass.name →
    (∃ kind ∈ Catalog.returnTypes, kind <:+: line) ∧ finding.subject.toList ≠ [] ∧
      (∀ c ∈ finding.subject.toList, c.isAlphanum || c == '_') ∧ finding.subject.toList <:+: text

def PointsAtTrigger (text : List Char) (finding : Finding) : Prop :=
  ∃ line, 1 ≤ finding.lineNumber ∧ finding.lineNumber ≤ (Text.lines text).length ∧
    (Text.lines text)[finding.lineNumber.toNat - 1]? = some line ∧ HoldsTrigger text line finding

theorem pointsAtTrigger_of_getElem? {text line : List Char} {finding : Finding} {index : Nat}
    (numbered : finding.lineNumber = (index + 1 : Nat))
    (lookup : (Text.lines text)[index]? = some line) (holds : HoldsTrigger text line finding) :
    PointsAtTrigger text finding := by
  have bound : index < (Text.lines text).length := (List.getElem?_eq_some_iff.mp lookup).1
  refine ⟨line, by omega, by omega, ?_, holds⟩
  rw [numbered, Int.toNat_natCast, Nat.add_sub_cancel]
  exact lookup

theorem LinePass.pointsAtTrigger (text : List Char) :
    ∀ finding ∈ LinePass.findings text, PointsAtTrigger text finding := by
  have notLoop : LinePass.name ≠ LoopPass.name := by decide
  have notFunction : LinePass.name ≠ FunctionPass.name := by decide
  intro finding member
  obtain ⟨index, line, lookup, member⟩ := (mem_findings text finding).mp member
  rcases (mem_lineFindings _ line finding).mp member with
    ⟨entry, listed, found, among, rfl⟩ | ⟨found, among, reported⟩
  · have occurs := entry_occurs listed among
    have other := subject_ne_accessSubject listed occurs
    have inside := (subject_in_line listed occurs).1
    refine pointsAtTrigger_of_getElem? rfl lookup
      ⟨fun _ same => absurd same other, fun _ _ => ⟨inside, ?_⟩,
        fun rule => absurd rule notLoop, fun rule => absurd rule notFunction⟩
    exact ⟨entry, listed, excerpt line found, rfl, excerpt_infix line found⟩
  · have occurs := Pattern.occurs_of_mem_occurrences Catalog.arrayAccess line (by decide) 0 found
      among
    obtain ⟨bare, identifier, bracketed, rfl⟩ := accessFinding?_eq_some finding occurs reported
    exact pointsAtTrigger_of_getElem? rfl lookup
      ⟨fun _ _ => ⟨bare, rfl, identifier, bracketed⟩, fun _ other => absurd rfl other,
        fun rule => absurd rule notLoop, fun rule => absurd rule notFunction⟩

theorem pointsAtTrigger_of_word {text word : List Char} {finding : Finding} {start : Nat}
    (numbered : finding.lineNumber = Text.lineNumberAt text start) (plain : '\n' ∉ word)
    (nonempty : word ≠ []) (stands : word <+: text.drop start)
    (holds : ∀ line, word <:+: line → HoldsTrigger text line finding) :
    PointsAtTrigger text finding := by
  obtain ⟨line, lookup, inside⟩ := Text.word_in_line text word start plain nonempty stands
  refine pointsAtTrigger_of_getElem? ?_ lookup (holds line inside)
  rw [numbered, Text.lineNumberAt_natCast, Nat.add_sub_cancel]

theorem LoopPass.pointsAtTrigger (text : List Char) :
    ∀ finding ∈ LoopPass.findings text, PointsAtTrigger text finding := by
  have notLine : LoopPass.name ≠ LinePass.name := by decide
  have notFunction : LoopPass.name ≠ FunctionPass.name := by decide
  intro finding member
  obtain ⟨found, among, reported⟩ := List.mem_filterMap.mp member
  obtain ⟨-, rfl⟩ := (loopFinding?_eq_some_iff text found finding).mp reported
  have leftmost := Pattern.leftmost_occurrences Catalog.loop text (by decide) 0
  obtain ⟨word, opening, stands, -⟩ := (leftmost.spelled found among).opens
  rw [Catalog.loop_openings, List.mem_singleton] at opening
  subst word
  refine pointsAtTrigger_of_word rfl (by decide) (by decide) stands fun line inside => ?_
  exact ⟨fun rule => absurd rule notLine, fun rule => absurd rule notLine, fun _ => inside,
    fun rule => absurd rule notFunction⟩

theorem FunctionPass.pointsAtTrigger (text : List Char) :
    ∀ finding ∈ FunctionPass.findings text, PointsAtTrigger text finding := by
  have notLine : FunctionPass.name ≠ LinePass.name := by decide
  have notLoop : FunctionPass.name ≠ LoopPass.name := by decide
  have keywords : ∀ kind ∈ Catalog.returnTypes, '\n' ∉ kind ∧ kind ≠ [] := by decide
  intro finding member
  obtain ⟨found, among, reported⟩ := List.mem_filterMap.mp member
  obtain ⟨-, -, rfl⟩ := (functionFinding?_eq_some_iff text found finding).mp reported
  have occurs := Pattern.occurs_of_mem_occurrences Catalog.function text (by decide) 0 found among
  obtain ⟨kind, nameStart, nameStop, paren, close, brace, head, -, groups⟩ :=
    Catalog.mem_outcomes_function.mp occurs.mem
  have named : (found.group? 2).getD [] = Text.slice text nameStart nameStop := by
    simp [Match.group?, groups, List.lookup_cons]
  obtain ⟨plain, nonempty⟩ := keywords kind head.listed
  refine pointsAtTrigger_of_word rfl plain nonempty head.keyword fun line inside => ?_
  refine ⟨fun rule => absurd rule notLine, fun rule => absurd rule notLine,
    fun rule => absurd rule notLoop, fun _ => ⟨⟨kind, head.listed, inside⟩, ?_⟩⟩
  rw [named, String.toList_ofList]
  exact ⟨head.named.2.slice_ne_nil head.named.1, head.named.2.forall_mem,
    Text.slice_infix text nameStart nameStop⟩

/-- Every finding of a scan points at a physical line of the file that holds its trigger, whatever
the bytes of the file are. -/
theorem scan_findings_point_at_trigger (source : String) (bytes : List UInt8) :
    ∃ result, (Scan.run source (.ok bytes)).2 = .ok result ∧
      ∀ finding ∈ result.findings, PointsAtTrigger (Utf8.decode bytes) finding := by
  refine ⟨_, Scan.run_ok source bytes, fun finding member => ?_⟩
  rw [ScanResult.addAll_new_findings, Scan.mem_findings] at member
  rcases member with line | loop | function
  · exact LinePass.pointsAtTrigger _ finding line
  · exact LoopPass.pointsAtTrigger _ finding loop
  · exact FunctionPass.pointsAtTrigger _ finding function

end OverflowScan
