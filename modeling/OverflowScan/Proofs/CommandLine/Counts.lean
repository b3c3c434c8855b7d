import OverflowScan.Proofs.CommandLine.Outcome
import OverflowScan.Proofs.Session.Counts

set_option autoImplicit false

namespace OverflowScan

namespace Scan

theorem countP_rule_self (pass : Pass) (text : List Char) :
    (pass.findings text).countP (fun finding => finding.rule = pass.name) =
      (pass.findings text).length := by
  apply List.countP_eq_length.mpr
  intro finding member
  exact decide_eq_true (pass.rule_eq text finding member)

theorem countP_rule_other {pass other : Pass} (apart : other.name ≠ pass.name) (text : List Char) :
    (other.findings text).countP (fun finding => finding.rule = pass.name) = 0 := by
  apply List.countP_eq_zero.mpr
  intro finding member
  rw [other.rule_eq text finding member]
  simpa using apart

theorem countP_rule (pass : Pass) (text : List Char) :
    (findings text).countP (fun finding => finding.rule = pass.name) =
      (pass.findings text).length := by
  simp only [findings, Pass.all, List.flatMap_cons, List.flatMap_nil, List.append_nil,
    List.countP_append]
  have self := countP_rule_self pass text
  cases pass with
  | line =>
      rw [self, countP_rule_other (by decide), countP_rule_other (by decide)]
      omega
  | loop =>
      rw [self, countP_rule_other (by decide), countP_rule_other (by decide)]
      omega
  | function =>
      rw [self, countP_rule_other (by decide), countP_rule_other (by decide)]
      omega

end Scan

theorem Logger.emitAll_of_debug {logger : Logger} (lowest : logger.level = .debug)
    (used : logger.handlers = 1) (records : List Record) : logger.emitAll records = records := by
  have once : logger.emit = fun record => [record] := by
    funext record
    simp [emit, admits, lowest, used, Level.rank]
  rw [emitAll, once, List.flatMap_singleton']

namespace CommandLine

inductive AboutFile : Record → Prop where
  | written (path : String) : AboutFile (writtenRecord path)
  | unwritten (path : String) (failure : Failure) : AboutFile (unwrittenRecord path failure)

theorem afterWriting_output (logger : Logger) (output : Output) (path : String)
    (outcome : Except Failure Unit) :
    (afterWriting logger output path outcome).stdout = output.stdout ∧
      ∃ later : List Record, (∀ record ∈ later, AboutFile record) ∧
        (afterWriting logger output path outcome).stderr =
          output.stderr ++ noticesOf logger later := by
  match outcome with
  | .ok () => exact ⟨rfl, [writtenRecord path], by simp [AboutFile.written], rfl⟩
  | .error (.refused cause refused) =>
      exact ⟨rfl, [unwrittenRecord path (.refused cause refused)], by simp [AboutFile.unwritten],
        rfl⟩
  | .error .nullByte => exact ⟨rfl, [], by simp, (List.append_nil _).symm⟩
  | .error (.unopenable _ _) => exact ⟨rfl, [], by simp, (List.append_nil _).symm⟩
  | .error (.badSeverity _) => exact ⟨rfl, [], by simp, (List.append_nil _).symm⟩

/-- A run on a source that can be read prints the report of the scan. It logs the records of the
scan, then the rows of the summary, then what becomes of the report file. -/
theorem run_readable (environment : Option String) {tree : FileTree} {arguments : List String}
    {options : Options} {bytes : List UInt8} (parsed : parse arguments = .scan options)
    (opened : tree.read (Path.ofString options.source) = .ok bytes) :
    let output := (run environment tree arguments).1
    ∃ result, (Scan.runIn tree options.source).2 = .ok result ∧
      result = ({ source := options.source } : ScanResult).addAll
        (Scan.findings (Utf8.decode bytes)) ∧
      output.stdout = Report.render result none ++ "\n" ∧
      ∃ later, (∀ record ∈ later, AboutFile record) ∧
        output.stderr = noticesOf (loggerFor environment options)
          (Pass.all.flatMap (Scan.passRecords (Path.ofString options.source) (Utf8.decode bytes)) ++
            result.summary.rows.map rowRecord ++ later) := by
  refine ⟨_, Scan.runIn_readable opened, rfl, ?_⟩
  rw [run_opened environment parsed opened]
  cases orderFor options (Scan.resultOf options.source bytes) with
  | none => exact ⟨rfl, [], by simp, by rw [List.append_nil]; rfl⟩
  | some order =>
      obtain ⟨stdout, later, about, stderr⟩ := afterWriting_output
        (loggerFor environment options) (openedOutput environment options bytes) order.path
        (tree.storeDocument order.path order.document order.format).2
      exact ⟨stdout, later, about, stderr.trans (noticesOf_append _ _ _).symm⟩

/-- The records of the lowest level are those that count the findings of the passes. -/
theorem filter_debug (result : ScanResult) (path : Path) (text : List Char) {later : List Record}
    (about : ∀ record ∈ later, AboutFile record) :
    (Pass.all.flatMap (Scan.passRecords path text) ++ result.summary.rows.map rowRecord ++
        later).filter (fun record => record.level = .debug) =
      Pass.all.map fun pass => pass.countRecord (pass.findings text).length := by
  have quiet : later.filter (fun record => record.level = .debug) = [] := by
    apply List.filter_eq_nil_iff.mpr
    intro record member
    cases about record member <;> simp [writtenRecord, unwrittenRecord]
  rw [List.filter_append, List.filter_append, quiet, List.append_nil]
  rfl

end CommandLine

def ScanResult.foundBy (result : ScanResult) (rule : String) : Nat :=
  result.findings.countP fun finding => finding.rule = rule

theorem Pass.countRecord_eq (pass : Pass) (count : Nat) :
    pass.countRecord count =
      { level := .debug
        logger := "bufscan." ++ pass.name
        message := pass.name ++ ": " ++ Nat.repr count ++ " finding(s)" } := by
  have full : Logger.fullName pass.name = "bufscan." ++ pass.name := by
    cases pass <;> decide +kernel
  rw [countRecord, full]

/-- All counts agree. After any steps of a session the summary, its total, the rows, the structured
report and the header of the report count the findings of the result. And when a run of the command
line scans a file that can be read at the lowest log level, the records of that level are one for
each pass; it carries the number of findings with the name of that pass, and these numbers add up to
the total. -/
theorem all_counts_agree :
    (∀ (source : String) (home : Location) (environment : Option String)
      (steps : List Session.Step),
      ((Session.start source home environment).run steps).1.result.CountsAgree) ∧
    ∀ (environment : Option String) (tree : FileTree) (arguments : List String)
      (options : CommandLine.Options) (bytes : List UInt8),
      CommandLine.parse arguments = .scan options →
      tree.read (Path.ofString options.source) = .ok bytes →
      (CommandLine.loggerFor environment options).level = .debug →
      ∃ result, (Scan.runIn tree options.source).2 = .ok result ∧ result.CountsAgree ∧
        (CommandLine.run environment tree arguments).1.stdout =
          Report.render result none ++ "\n" ∧
        (CommandLine.run environment tree arguments).1.stderr.filter
            (fun notice => notice.level? = some .debug) =
          ["line_scanner", "loop_boundary", "function_signature"].map (fun rule => .record
            { level := .debug
              logger := "bufscan." ++ rule
              message := rule ++ ": " ++ Nat.repr (result.foundBy rule) ++ " finding(s)" }) ∧
        ((result.foundBy "line_scanner" + result.foundBy "loop_boundary" +
            result.foundBy "function_signature" : Nat) : Int) = result.summary.total := by
  refine ⟨Session.countsAgree_run, ?_⟩
  intro environment tree arguments options bytes parsed opened lowest
  obtain ⟨result, ran, shown, stdout, later, about, stderr⟩ :=
    CommandLine.run_readable environment parsed opened
  have agree : result.CountsAgree := by
    rw [shown]
    exact ((ScanResult.tallied_empty _).addAll _).countsAgree
  have found : result.findings = Scan.findings (Utf8.decode bytes) := by
    rw [shown, ScanResult.addAll_new_findings]
  have counted (pass : Pass) :
      (pass.findings (Utf8.decode bytes)).length = result.foundBy pass.name := by
    rw [ScanResult.foundBy, found, Scan.countP_rule]
  have names : ["line_scanner", "loop_boundary", "function_signature"] = Pass.all.map Pass.name :=
    rfl
  refine ⟨result, ran, agree, stdout, ?_, ?_⟩
  · -- nothing but the counts of the passes has the lowest level
    have counts := congrArg (List.map CommandLine.Notice.record)
      (CommandLine.filter_debug result (Path.ofString options.source) (Utf8.decode bytes) about)
    rw [List.map_map] at counts
    rw [stderr, CommandLine.noticesOf,
      Logger.emitAll_of_debug lowest (CommandLine.loggerFor_handlers environment options),
      List.filter_map, names, List.map_map]
    simpa [Function.comp_def, CommandLine.Notice.level?, Pass.countRecord_eq, counted] using counts
  · have lines : _ = result.foundBy "line_scanner" := counted .line
    have loops : _ = result.foundBy "loop_boundary" := counted .loop
    have functions : _ = result.foundBy "function_signature" := counted .function
    rw [agree.total, found, ← lines, ← loops, ← functions]
    simp [Scan.findings, Pass.all, Nat.add_assoc]

theorem debug_records_count_call :
    (CommandLine.run none
        ((FileTree.empty ["home"]).put ["home", "a.c"] (.file (Utf8.encode "gets(s);".toList)))
        ["-vv", "a.c"]).1.stderr.filter (fun notice => notice.level? = some .debug) =
      [.record ⟨.debug, "bufscan.line_scanner", "line_scanner: 1 finding(s)"⟩,
        .record ⟨.debug, "bufscan.loop_boundary", "loop_boundary: 0 finding(s)"⟩,
        .record ⟨.debug, "bufscan.function_signature", "function_signature: 0 finding(s)"⟩] := by
  have parsed : CommandLine.parse ["-vv", "a.c"] = .scan { source := "a.c", verbosity := 2 } := by
    decide +kernel
  have opened : ((FileTree.empty ["home"]).put ["home", "a.c"]
      (.file (Utf8.encode "gets(s);".toList))).read (Path.ofString "a.c") =
      .ok (Utf8.encode "gets(s);".toList) := by
    rfl
  have found : (Scan.findings (Utf8.decode (Utf8.encode "gets(s);".toList))).map Finding.rule =
      [LinePass.name] := by
    decide +kernel
  obtain ⟨result, ran, -, -, counts, -⟩ :=
    all_counts_agree.2 none _ _ _ _ parsed opened (by decide)
  have rules : result.findings.map Finding.rule = [LinePass.name] := by
    rw [Scan.runIn, opened] at ran
    rw [Scan.findings_of_run ran]
    exact found
  have counted (rule : String) :
      result.foundBy rule = [LinePass.name].countP fun name => name = rule := by
    rw [← rules, List.countP_map]
    rfl
  simp only [counted] at counts
  rw [counts]
  decide +kernel

end OverflowScan
