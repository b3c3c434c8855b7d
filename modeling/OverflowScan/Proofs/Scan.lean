import OverflowScan.Scan

set_option autoImplicit false

namespace OverflowScan

namespace Summary

theorem count_increment (summary : Summary) (added counted : Severity) :
    (summary.increment added).count counted =
      summary.count counted + if added = counted then 1 else 0 := by
  cases added <;> cases counted <;> simp [increment, count]

end Summary

namespace ScanResult

theorem addAll_append (result : ScanResult) (first second : List Finding) :
    result.addAll (first ++ second) = (result.addAll first).addAll second :=
  List.foldl_append

theorem addAll_source (result : ScanResult) (added : List Finding) :
    (result.addAll added).source = result.source := by
  induction added generalizing result with
  | nil => rfl
  | cons finding rest ih => exact ih (result.add finding)

theorem addAll_findings (result : ScanResult) (added : List Finding) :
    (result.addAll added).findings = result.findings ++ added := by
  induction added generalizing result with
  | nil => exact (List.append_nil _).symm
  | cons finding rest ih =>
      have grown := ih (result.add finding)
      rw [add, List.append_assoc] at grown
      exact grown

theorem addAll_new_findings (source : String) (added : List Finding) :
    (({ source := source } : ScanResult).addAll added).findings = added := by
  rw [addAll_findings, List.nil_append]

/-- Adding findings raises each count by the number of findings of its severity. -/
theorem addAll_count (result : ScanResult) (added : List Finding) (severity : Severity) :
    (result.addAll added).summary.count severity =
      result.summary.count severity + added.countP fun finding => finding.severity = severity := by
  induction added generalizing result with
  | nil => simp [addAll]
  | cons finding rest ih =>
      have grown := ih (result.add finding)
      rw [show (result.add finding).summary = result.summary.increment finding.severity from rfl,
        Summary.count_increment] at grown
      rw [List.countP_cons]
      refine grown.trans ?_
      by_cases same : finding.severity = severity
      · simp only [same, ↓reduceIte, decide_true]
        omega
      · simp only [same, ↓reduceIte, decide_false, Bool.false_eq_true]
        omega

end ScanResult

namespace Scan

def findings (text : List Char) : List Finding :=
  Pass.all.flatMap fun pass => pass.findings text

theorem runPasses_ok (path : Path) (bytes : List UInt8) (passes : List Pass)
    (result : ScanResult) :
    (runPasses path (.ok bytes) passes result).2 =
      .ok (result.addAll (passes.flatMap fun pass => pass.findings (Utf8.decode bytes))) := by
  induction passes generalizing result with
  | nil => rfl
  | cons pass rest ih =>
      rw [List.flatMap_cons, ScanResult.addAll_append]
      exact ih (result.addAll (pass.findings (Utf8.decode bytes)))

/-- A scan of a file that can be read gives a result, whatever its bytes are. -/
theorem run_ok (source : String) (bytes : List UInt8) :
    (run source (.ok bytes)).2 =
      .ok (({ source := source } : ScanResult).addAll (findings (Utf8.decode bytes))) :=
  runPasses_ok _ bytes Pass.all _

section

variable {source : String} {bytes : List UInt8} {result : ScanResult}

theorem source_of_run (ran : (run source (.ok bytes)).2 = .ok result) :
    result.source = source := by
  rw [run_ok] at ran
  cases ran
  exact ScanResult.addAll_source _ _

theorem findings_of_run (ran : (run source (.ok bytes)).2 = .ok result) :
    result.findings = findings (Utf8.decode bytes) := by
  rw [run_ok] at ran
  cases ran
  exact ScanResult.addAll_new_findings source _

end

theorem mem_findings (text : List Char) (finding : Finding) :
    finding ∈ findings text ↔
      finding ∈ LinePass.findings text ∨ finding ∈ LoopPass.findings text ∨
        finding ∈ FunctionPass.findings text := by
  simp [findings, Pass.all, Pass.findings]

end Scan

end OverflowScan
