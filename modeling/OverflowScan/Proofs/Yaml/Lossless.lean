import OverflowScan.Proofs.Document
import OverflowScan.Proofs.Files.Store
import OverflowScan.Proofs.Text.Utf8
import OverflowScan.Proofs.Yaml.Shape
import OverflowScan.ReportFile

set_option autoImplicit false

namespace OverflowScan

namespace Document

open Yaml (SameShape)

theorem sameShape_ofFinding (first second : Finding) :
    SameShape (ofFinding first) (ofFinding second) := by
  have values : ∀ entry ∈ [("subject", text first.subject, text second.subject),
      ("line_number", int first.lineNumber, int second.lineNumber),
      ("description", text first.description, text second.description),
      ("severity", text first.severity.text, text second.severity.text),
      ("rule", text first.rule, text second.rule)], SameShape entry.2.1 entry.2.2 := by
    simp only [List.forall_mem_cons]
    exact ⟨.text _ _, .int _ _, .text _ _, .text _ _, .text _ _, List.forall_mem_nil _⟩
  exact .map values

theorem sameShape_ofSummary (first second : Summary) :
    SameShape (ofSummary first) (ofSummary second) := by
  have values : ∀ entry ∈ [("high", int first.high, int second.high),
      ("medium", int first.medium, int second.medium), ("low", int first.low, int second.low),
      ("total", int first.total, int second.total)], SameShape entry.2.1 entry.2.2 := by
    simp only [List.forall_mem_cons]
    exact ⟨.int _ _, .int _ _, .int _ _, .int _ _, List.forall_mem_nil _⟩
  exact .map values

theorem eq_of_render_ofResult {first second : ScanResult}
    (same : Yaml.render (ofResult first) = Yaml.render (ofResult second)) : first = second := by
  have values : ∀ entry ∈ [("source", text first.source, text second.source),
      ("summary", ofSummary first.summary, ofSummary second.summary),
      ("findings", list (first.findings.map ofFinding), list (second.findings.map ofFinding))],
      SameShape entry.2.1 entry.2.2 := by
    simp only [List.forall_mem_cons]
    refine ⟨.text _ _, sameShape_ofSummary _ _, .list ?_, List.forall_mem_nil _⟩
    intro item member other among
    obtain ⟨finding, -, rfl⟩ := List.mem_map.mp member
    obtain ⟨again, -, rfl⟩ := List.mem_map.mp among
    exact sameShape_ofFinding finding again
  exact ofResult_injective (Yaml.map_eq_of_render_eq values same)

end Document

/-- Results that are written to YAML reports with the same text are equal: in source, in counts and
in all their findings, whatever characters their texts hold and whichever integers their lines have.
So are results whose report files, wherever they were stored, read the same. -/
theorem yaml_report_lossless (first second : ScanResult) :
    ((Document.ofResult first).serialise (Format.ofName "yaml") =
        (Document.ofResult second).serialise (Format.ofName "yaml") →
      first.source = second.source ∧ first.summary = second.summary ∧
        first.findings = second.findings) ∧
    ∀ (tree stored other again : FileTree) (path place : String),
      tree.storeDocument path (Document.ofResult first) (Format.ofName "yaml") =
          (stored, .ok ()) →
        other.storeDocument place (Document.ofResult second) (Format.ofName "yaml") =
            (again, .ok ()) →
          stored.read (Path.ofString path) = again.read (Path.ofString place) →
            first.source = second.source ∧ first.summary = second.summary ∧
              first.findings = second.findings := by
  have equal (same : (Document.ofResult first).serialise (Format.ofName "yaml") =
      (Document.ofResult second).serialise (Format.ofName "yaml")) :
      first.source = second.source ∧ first.summary = second.summary ∧
        first.findings = second.findings := by
    rw [Document.eq_of_render_ofResult same]
    exact ⟨rfl, rfl, rfl⟩
  refine ⟨equal, ?_⟩
  intro tree stored other again path place done doneAgain same
  rw [FileTree.read_of_store done, FileTree.read_of_store doneAgain] at same
  have bytes := congrArg Utf8.decode (Except.ok.inj same)
  rw [Utf8.decode_encode, Utf8.decode_encode] at bytes
  exact equal bytes

theorem stored_reports_agree :
    let finding : Finding := ⟨"null", -3, "it's:\n\x85two ", .high, "12"⟩
    let first : ScanResult := (ScanResult.mk "a\u2028b.c" {} []).add finding
    let second : ScanResult := ⟨"a\u2028b.c", { high := 1 }, [finding]⟩
    (Document.ofResult first).serialise (Format.ofName "yaml") =
        (Document.ofResult second).serialise (Format.ofName "yaml") ∧
      (∃ stored again : FileTree,
        (FileTree.empty ["home"]).storeDocument "out/report" (Document.ofResult first)
            (Format.ofName "yaml") = (stored, .ok ()) ∧
          (FileTree.empty ["home", "work"]).storeDocument "report" (Document.ofResult second)
              (Format.ofName "yaml") = (again, .ok ()) ∧
            stored.read (Path.ofString "out/report") = again.read (Path.ofString "report")) ∧
      first.source = second.source ∧ first.summary = second.summary ∧
        first.findings = second.findings := by
  intro finding first second
  have text : (Document.ofResult first).serialise (Format.ofName "yaml") =
      (Document.ofResult second).serialise (Format.ofName "yaml") := by rfl
  obtain ⟨stored, done⟩ : ∃ stored, (FileTree.empty ["home"]).storeDocument "out/report"
      (Document.ofResult first) (Format.ofName "yaml") = (stored, .ok ()) :=
    ⟨_, Prod.ext rfl (by rfl)⟩
  obtain ⟨again, doneAgain⟩ : ∃ again, (FileTree.empty ["home", "work"]).storeDocument "report"
      (Document.ofResult second) (Format.ofName "yaml") = (again, .ok ()) :=
    ⟨_, Prod.ext rfl (by rfl)⟩
  have read : stored.read (Path.ofString "out/report") = again.read (Path.ofString "report") := by
    rw [FileTree.read_of_store done, FileTree.read_of_store doneAgain, text]
  have byText := (yaml_report_lossless first second).1 text
  have byFile := (yaml_report_lossless first second).2 _ _ _ _ _ _ done doneAgain read
  exact ⟨text, ⟨stored, again, done, doneAgain, read⟩, byText.1, byFile.2⟩

end OverflowScan
