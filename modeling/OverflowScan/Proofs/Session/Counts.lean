import OverflowScan.Proofs.Pass.Order
import OverflowScan.Proofs.Report
import OverflowScan.Session

set_option autoImplicit false

namespace OverflowScan

namespace ScanResult

/-- The count of each severity is the number of the findings that have it. -/
def Tallied (result : ScanResult) : Prop :=
  ∀ severity, result.summary.count severity =
    result.findings.countP fun finding => finding.severity = severity

theorem tallied_empty (source : String) : Tallied { source := source } := by
  intro severity
  cases severity <;> rfl

theorem Tallied.addAll {result : ScanResult} (tallied : result.Tallied) (added : List Finding) :
    (result.addAll added).Tallied := by
  intro severity
  rw [addAll_count, addAll_findings, List.countP_append, tallied severity, Int.natCast_add]

end ScanResult

theorem length_eq_countP (findings : List Finding) :
    findings.length =
      findings.countP (fun finding => finding.severity = .high) +
        findings.countP (fun finding => finding.severity = .medium) +
        findings.countP (fun finding => finding.severity = .low) := by
  induction findings with
  | nil => rfl
  | cons finding rest ih =>
      simp only [List.length_cons, List.countP_cons, ih]
      cases finding.severity <;> simp <;> omega

def Document.field? (key : String) : Document → Option Document
  | .map fields => fields.lookup key
  | _ => none

namespace ScanResult

/-- All places that hold a count of a result agree with its findings: the counts by severity, their
total, the rows, the structured report and the header of the report. -/
structure CountsAgree (result : ScanResult) : Prop where
  high : result.summary.high = result.findings.countP fun finding => finding.severity = .high
  medium : result.summary.medium = result.findings.countP fun finding => finding.severity = .medium
  low : result.summary.low = result.findings.countP fun finding => finding.severity = .low
  total : result.summary.total = result.findings.length
  rows : (result.summary.rows.map Prod.snd).foldr (· + ·) 0 = (result.findings.length : Int)
  document : ((Document.ofResult result).field? "summary").bind (Document.field? "total") =
    some (.int result.findings.length)
  header : result.findings ≠ [] → ∀ name, ∃ rest, Report.render result name =
    "Detected " ++ Text.decimal result.summary.total ++
      " potential buffer overflow vulnerabilities in " ++ rest

theorem Tallied.total_eq {result : ScanResult} (tallied : result.Tallied) :
    result.summary.total = result.findings.length := by
  have high := tallied .high
  have medium := tallied .medium
  have low := tallied .low
  have all := length_eq_countP result.findings
  simp only [Summary.total, Severity.all, List.map_cons, List.map_nil, List.foldr_cons,
    List.foldr_nil]
  omega

theorem Tallied.countsAgree {result : ScanResult} (tallied : result.Tallied) :
    result.CountsAgree := by
  have total := tallied.total_eq
  refine ⟨tallied .high, tallied .medium, tallied .low, total, ?_, ?_, ?_⟩
  · rw [← total]
    rfl
  · rw [← total]
    simp [Document.ofResult, Document.ofSummary, Document.field?, List.lookup_cons]
  · intro found name
    obtain ⟨rest, shown⟩ := Report.render_header found name
    refine ⟨name.getD result.source ++ ":" ++ "\n" ++ rest, ?_⟩
    rw [shown, Report.header, total, Text.decimal_natCast]
    simp only [String.append_assoc]

end ScanResult

theorem Scan.runPasses_result {path : Path} {content : Except Failure (List UInt8)}
    {passes : List Pass} {result grown : ScanResult}
    (ran : (runPasses path content passes result).2 = .ok grown) :
    ∃ added, grown = result.addAll added := by
  induction passes generalizing result with
  | nil =>
      cases ran
      exact ⟨[], rfl⟩
  | cons pass rest ih =>
      rw [runPasses, Pass.apply_eq_map] at ran
      cases alone : pass.apply content { source := "" } with
      | error failure =>
          rw [alone] at ran
          cases ran
      | ok outcome =>
          rw [alone] at ran
          obtain ⟨added, rfl⟩ := ih ran
          exact ⟨_, (ScanResult.addAll_append result outcome.1.findings added).symm⟩

namespace Session

/-- What a step can do to the result: it adds findings to the one there is, or it starts a new one
and adds findings to that. A step that fails adds nothing. -/
theorem step_result (session : Session) (step : Step) :
    ∃ base added, (session.step step).1.result = ScanResult.addAll base added ∧
      (base = session.result ∨ ∃ source, base = { source := source }) := by
  have kept {after : ScanResult} (same : after = session.result) :
      ∃ base added, after = ScanResult.addAll base added ∧
        (base = session.result ∨ ∃ source, base = { source := source }) :=
    ⟨session.result, [], same, Or.inl rfl⟩
  cases step with
  | write path content => exact kept rfl
  | makeFolder path => exact kept rfl
  | remove path =>
      apply kept
      rw [Session.step]
      cases session.tree.remove (Path.ofString path) <;> rfl
  | verbosity n => exact kept rfl
  | reset source => exact ⟨{ source := source }, [], rfl, Or.inr ⟨source, rfl⟩⟩
  | pass pass path =>
      rw [Session.step]
      rw [Pass.apply_eq_map]
      cases pass.apply (session.tree.read (Path.ofString path)) { source := "" } with
      | error failure => exact kept rfl
      | ok outcome => exact ⟨session.result, outcome.1.findings, rfl, Or.inl rfl⟩
  | scanLine line number =>
      exact ⟨session.result, LinePass.lineFindings number line, rfl, Or.inl rfl⟩
  | add subject number description severity rule =>
      rw [Session.step]
      cases Severity.ofText? severity with
      | none => exact kept rfl
      | some severity =>
          exact ⟨session.result, [⟨subject, number, description, severity, rule⟩], rfl, Or.inl rfl⟩
  | scan source =>
      rw [Session.step]
      cases ran : Scan.runIn session.tree source with
      | mk records outcome =>
          cases outcome with
          | error failure => exact kept rfl
          | ok grown =>
              obtain ⟨added, rfl⟩ := Scan.runPasses_result (congrArg Prod.snd ran)
              exact ⟨{ source := source }, added, rfl, Or.inr ⟨source, rfl⟩⟩
  | report name => exact kept rfl
  | showResult => exact kept rfl
  | showRows => exact kept rfl
  | saveReport path format =>
      apply kept
      rw [Session.step]
      cases session.tree.storeDocument path (Document.ofResult session.result) format with
      | mk tree outcome => cases outcome <;> rfl

theorem step_tallied {session : Session} (tallied : session.result.Tallied) (step : Step) :
    (session.step step).1.result.Tallied := by
  obtain ⟨base, added, grown, same | ⟨source, fresh⟩⟩ := session.step_result step
  · rw [grown, same]
    exact tallied.addAll added
  · rw [grown, fresh]
    exact (ScanResult.tallied_empty source).addAll added

theorem run_tallied {session : Session} (tallied : session.result.Tallied) (steps : List Step) :
    (session.run steps).1.result.Tallied := by
  induction steps generalizing session with
  | nil => exact tallied
  | cons step rest ih => exact ih (step_tallied tallied step)

theorem countsAgree_run (source : String) (home : Location) (environment : Option String)
    (steps : List Step) : ((start source home environment).run steps).1.result.CountsAgree :=
  (run_tallied (ScanResult.tallied_empty source) steps).countsAgree

end Session

end OverflowScan
