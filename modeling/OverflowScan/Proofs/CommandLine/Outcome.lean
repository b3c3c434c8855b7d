import OverflowScan.CommandLine.Run
import OverflowScan.Proofs.Files.Refusals
import OverflowScan.Proofs.Scan

set_option autoImplicit false

namespace OverflowScan

namespace Scan

/-- What a pass over a file that can be read logs: that it runs, and how many findings it has. -/
def passRecords (path : Path) (text : List Char) (pass : Pass) : List Record :=
  [announcement pass path, pass.countRecord (pass.findings text).length]

theorem runPasses_records (path : Path) (bytes : List UInt8) (passes : List Pass)
    (result : ScanResult) :
    (runPasses path (.ok bytes) passes result).1 =
      passes.flatMap (passRecords path (Utf8.decode bytes)) := by
  induction passes generalizing result with
  | nil => rfl
  | cons pass rest ih =>
      rw [List.flatMap_cons, ← ih (result.addAll (pass.findings (Utf8.decode bytes)))]
      rfl

def resultOf (source : String) (bytes : List UInt8) : ScanResult :=
  ({ source := source } : ScanResult).addAll (findings (Utf8.decode bytes))

theorem run_readable (source : String) (bytes : List UInt8) :
    run source (.ok bytes) =
      (Pass.all.flatMap (passRecords (Path.ofString source) (Utf8.decode bytes)),
        .ok (resultOf source bytes)) := by
  apply Prod.ext
  · exact runPasses_records _ bytes Pass.all _
  · exact run_ok source bytes

theorem runIn_readable {tree : FileTree} {source : String} {bytes : List UInt8}
    (opened : tree.read (Path.ofString source) = .ok bytes) :
    (runIn tree source).2 = .ok (resultOf source bytes) := by
  rw [runIn, opened, run_readable]

end Scan

theorem Logger.acquire_handlers {logger : Logger} (fresh : logger.handlers ≤ 1)
    (environment : Option String) : (logger.acquire environment).handlers = 1 := by
  unfold acquire
  split
  · simp only
    omega
  · omega

theorem Logger.setVerbosity_handlers {logger : Logger} (used : logger.handlers = 1)
    (environment : Option String) (verbosity : Int) :
    (logger.setVerbosity environment verbosity).handlers = 1 := by
  unfold setVerbosity
  split
  · exact used
  · exact acquire_handlers (by omega) environment

theorem Logger.emitAll_singleton {logger : Logger} (used : logger.handlers = 1) (entry : Record) :
    logger.emitAll [entry] = if logger.admits entry.level then [entry] else [] := by
  rw [emitAll, List.flatMap_singleton, emit, used, List.replicate_one]

namespace CommandLine

theorem loggerFor_handlers (environment : Option String) (options : Options) :
    (loggerFor environment options).handlers = 1 :=
  Logger.setVerbosity_handlers (Logger.acquire_handlers (Nat.zero_le 1) environment) environment _

def Notice.level? : Notice → Option Level
  | .record entry => some entry.level
  | .message _ => none

theorem noticesOf_append (logger : Logger) (first second : List Record) :
    noticesOf logger (first ++ second) = noticesOf logger first ++ noticesOf logger second := by
  simp [noticesOf, Logger.emitAll]

theorem noticesOf_singleton {logger : Logger} (used : logger.handlers = 1) (entry : Record) :
    noticesOf logger [entry] = if logger.admits entry.level then [.record entry] else [] := by
  rw [noticesOf, Logger.emitAll_singleton used]
  split <;> rfl

theorem mem_noticesOf {logger : Logger} {records : List Record} {notice : Notice}
    (member : notice ∈ noticesOf logger records) : ∃ entry ∈ records, notice = .record entry := by
  obtain ⟨entry, emitted, rfl⟩ := List.mem_map.mp member
  obtain ⟨logged, among, written⟩ := List.mem_flatMap.mp emitted
  unfold Logger.emit at written
  split at written
  · rw [List.eq_of_mem_replicate written]
    exact ⟨logged, among, rfl⟩
  · cases written

/-- What a run prints about a source that can be read, before it tries the report file. -/
def openedOutput (environment : Option String) (options : Options) (bytes : List UInt8) :
    Output where
  status := .ok 0
  stdout := Report.render (Scan.resultOf options.source bytes) none ++ "\n"
  stderr := noticesOf (loggerFor environment options)
    (Pass.all.flatMap (Scan.passRecords (Path.ofString options.source) (Utf8.decode bytes)) ++
      (Scan.resultOf options.source bytes).summary.rows.map rowRecord)

section

variable (environment : Option String) {tree : FileTree} {arguments : List String}
  {options : Options}

/-- A source that cannot be opened ends the run with a message. -/
theorem run_unopenable {cause : Refusal} {path : Path} (parsed : parse arguments = .scan options)
    (refused : tree.read (Path.ofString options.source) = .error (.unopenable cause path)) :
    run environment tree arguments =
      (⟨.ok 0, "", noticesOf (loggerFor environment options)
          [Scan.announcement .line (Path.ofString options.source)] ++
            [.message (openMessage options.source)]⟩, tree) := by
  simp only [run, parsed, refused, scanOutput]
  rfl

/-- A source that can be read is reported, and then the report file is tried. -/
theorem run_opened {bytes : List UInt8} (parsed : parse arguments = .scan options)
    (opened : tree.read (Path.ofString options.source) = .ok bytes) :
    run environment tree arguments =
      match orderFor options (Scan.resultOf options.source bytes) with
      | none => (openedOutput environment options bytes, tree)
      | some order =>
        let stored := tree.storeDocument order.path order.document order.format
        (afterWriting (loggerFor environment options) (openedOutput environment options bytes)
          order.path stored.2, stored.1) := by
  have scanned : scanOutput environment options (.ok bytes) =
      (openedOutput environment options bytes,
        orderFor options (Scan.resultOf options.source bytes)) := by
    rw [scanOutput, Scan.run_readable]
    rfl
  simp only [run, parsed, opened, scanned]
  cases orderFor options (Scan.resultOf options.source bytes) <;> rfl

end

theorem orderFor_of_output {options : Options} {path : String}
    (asked : options.output = some path) (filled : path ≠ "") (result : ScanResult) :
    orderFor options result = some ⟨path, .ofResult result, options.format⟩ := by
  rw [orderFor, asked]
  exact if_neg filled

theorem output_of_orderFor {options : Options} {result : ScanResult} {order : Order}
    (ordered : orderFor options result = some order) : options.output = some order.path := by
  unfold orderFor at ordered
  split at ordered
  · rename_i path asked
    split at ordered
    · cases ordered
    · cases ordered
      exact asked
  · cases ordered

/-- A report file whose path holds no null character is written or refused. -/
theorem isRefusal_of_storeDocument {tree : FileTree} {path : String} {document : Document}
    {format : Format} {failure : Failure} (plain : '\x00' ∉ path.toList)
    (failed : (tree.storeDocument path document format).2 = .error failure) :
    failure.IsRefusal := by
  unfold FileTree.storeDocument at failed
  exact FileTree.isRefusal_of_store (FileTree.hasNull_ofString_eq_false plain)
    (Prod.ext rfl failed)

theorem afterWriting_stdout (logger : Logger) (output : Output) (path : String)
    (outcome : Except Failure Unit) :
    (afterWriting logger output path outcome).stdout = output.stdout := by
  unfold afterWriting
  split <;> rfl

theorem afterWriting_status {outcome : Except Failure Unit}
    (refusal : ∀ failure, outcome = .error failure → failure.IsRefusal) (logger : Logger)
    (output : Output) (path : String) :
    (afterWriting logger output path outcome).status = output.status := by
  unfold afterWriting
  split
  · rfl
  · rfl
  · rename_i failure other
    obtain ⟨cause, refused, same⟩ := refusal failure rfl
    exact absurd same (other cause refused)

end CommandLine

end OverflowScan
