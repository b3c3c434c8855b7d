import OverflowScan.Proofs.CommandLine.Outcome
import OverflowScan.Proofs.Files.Folders
import OverflowScan.Proofs.Text.Utf8

set_option autoImplicit false

namespace OverflowScan

namespace CommandLine

inductive AboutScan : Record → Prop where
  | announced (pass : Pass) (path : Path) : AboutScan (Scan.announcement pass path)
  | counted (pass : Pass) (count : Nat) : AboutScan (pass.countRecord count)
  | row (row : Severity × Int) : AboutScan (rowRecord row)

theorem aboutScan_of_mem {environment : Option String} {options : Options} {bytes : List UInt8}
    {notice : Notice} (member : notice ∈ (openedOutput environment options bytes).stderr) :
    ∃ entry, AboutScan entry ∧ notice = .record entry := by
  obtain ⟨entry, among, rfl⟩ := mem_noticesOf member
  refine ⟨entry, ?_, rfl⟩
  rcases List.mem_append.mp among with scanned | counted
  · obtain ⟨pass, -, logged⟩ := List.mem_flatMap.mp scanned
    rcases List.mem_cons.mp logged with rfl | logged
    · exact .announced pass _
    · rw [List.mem_singleton.mp logged]
      exact .counted pass _
  · obtain ⟨row, -, rfl⟩ := List.mem_map.mp counted
    exact .row row

theorem AboutScan.level_ne_error {entry : Record} (about : AboutScan entry) :
    entry.level ≠ .error := by
  cases about <;> simp [Scan.announcement, Pass.countRecord, rowRecord]

def SaysWritten (entry : Record) : Prop :=
  "Report written".toList <+: entry.message.toList

theorem SaysWritten.opening {entry : Record} (told : SaysWritten entry) :
    entry.message.toList.take 2 = ['R', 'e'] := by
  obtain ⟨rest, whole⟩ := told
  rw [← whole]
  rfl

theorem AboutScan.not_saysWritten {entry : Record} (about : AboutScan entry) :
    ¬ SaysWritten entry := by
  intro told
  have opening := told.opening
  cases about with
  | announced pass path => simp [Scan.announcement] at opening
  | counted pass count =>
    cases pass <;>
      simp [Pass.countRecord, Pass.name, LinePass.name, LoopPass.name, FunctionPass.name] at opening
  | row row =>
    obtain ⟨severity, count⟩ := row
    cases severity <;> simp [rowRecord, padRight, Severity.text] at opening

theorem not_saysWritten_unwritten (path : String) (failure : Failure) :
    ¬ SaysWritten (unwrittenRecord path failure) := by
  intro told
  have opening := told.opening
  simp [unwrittenRecord] at opening

def errorsIn (notices : List Notice) : List Notice :=
  notices.filter fun notice => notice.level? = some .error

/-- The records of a scan are no errors. -/
theorem errorsIn_append (environment : Option String) (options : Options) (bytes : List UInt8)
    (later : List Notice) :
    errorsIn ((openedOutput environment options bytes).stderr ++ later) = errorsIn later := by
  have none : errorsIn (openedOutput environment options bytes).stderr = [] := by
    apply List.filter_eq_nil_iff.mpr
    intro notice member
    obtain ⟨entry, about, rfl⟩ := aboutScan_of_mem member
    simpa [Notice.level?] using about.level_ne_error
  rw [errorsIn, List.filter_append, ← errorsIn, none, List.nil_append, errorsIn]

theorem admits_error (logger : Logger) :
    logger.admits .error = if logger.level = .critical then false else true := by
  unfold Logger.admits
  cases logger.level <;> decide

section

variable (environment : Option String) (options : Options) (bytes : List UInt8) (path : String)

/-- What a run says after the report file was refused: one error, if its level lets it through, and
nowhere that the file was written. -/
theorem refused_notices {failure : Failure} (refusal : failure.IsRefusal) :
    let notices := (afterWriting (loggerFor environment options)
      (openedOutput environment options bytes) path (.error failure)).stderr
    errorsIn notices = (if (loggerFor environment options).level = .critical then []
      else [.record
        { level := .error
          logger := "bufscan.cli"
          message := "Could not write report to " ++ path ++ ": " ++ failure.message }]) ∧
    ∀ entry, .record entry ∈ notices → ¬ SaysWritten entry := by
  obtain ⟨cause, refused, rfl⟩ := refusal
  have logged := noticesOf_singleton (loggerFor_handlers environment options)
    (unwrittenRecord path (.refused cause refused))
  rw [show (unwrittenRecord path (.refused cause refused)).level = .error from rfl,
    admits_error] at logged
  constructor
  · refine (errorsIn_append environment options bytes _).trans ?_
    rw [logged]
    split <;> rfl
  · intro entry member
    rcases List.mem_append.mp member with earlier | last
    · obtain ⟨scanned, about, same⟩ := aboutScan_of_mem earlier
      cases same
      exact about.not_saysWritten
    · obtain ⟨only, among, same⟩ := mem_noticesOf last
      cases same
      rw [List.mem_singleton.mp among]
      exact not_saysWritten_unwritten path _

theorem written_notices :
    errorsIn (afterWriting (loggerFor environment options)
      (openedOutput environment options bytes) path (.ok ())).stderr = [] := by
  refine (errorsIn_append environment options bytes _).trans ?_
  apply List.filter_eq_nil_iff.mpr
  intro notice member
  obtain ⟨entry, among, rfl⟩ := mem_noticesOf member
  rw [List.mem_singleton.mp among]
  simp [Notice.level?, writtenRecord]

end

theorem run_filed (environment : Option String) {tree : FileTree} {arguments : List String}
    {options : Options} {bytes : List UInt8} {path : String}
    (parsed : parse arguments = .scan options) (asked : options.output = some path)
    (filled : path ≠ "") (opened : tree.read (Path.ofString options.source) = .ok bytes) :
    let stored := tree.storeDocument path
      (.ofResult (Scan.resultOf options.source bytes)) options.format
    run environment tree arguments =
      (afterWriting (loggerFor environment options) (openedOutput environment options bytes) path
        stored.2, stored.1) := by
  rw [run_opened environment parsed opened, orderFor_of_output asked filled]

end CommandLine

/-- A report file that cannot be written damages nothing, and one that is written touches only its
target. A failure leaves every file as it is and has at most made folders on the way; a success
leaves the text in the file that the path names and every other file as it is. On the command line a
failure leaves the status and the printed report alone and is logged as the only error, unless the
level of the logger is above that, and it is never said that the file was written; a success is
never logged as an error. -/
theorem report_file_touches_target_only :
    (∀ (tree after : FileTree) (path : String) (document : Document) (format : Format),
      (∀ failure, tree.storeDocument path document format = (after, .error failure) →
        (∀ location content, after.entryAt? location = some (.file content) ↔
          tree.entryAt? location = some (.file content)) ∧
        FileTree.GrownAlong (Path.ofString path).parent tree after) ∧
      (tree.storeDocument path document format = (after, .ok ()) →
        ∃ target bytes, FileTree.StoredAt (Path.ofString path) bytes tree after target ∧
          bytes = Utf8.encode (document.serialise format) ∧
          Utf8.decode bytes = document.serialise format ∧
          ∀ other, other ≠ target → ∀ content, after.entryAt? other = some (.file content) ↔
            tree.entryAt? other = some (.file content))) ∧
    ∀ (environment : Option String) (tree : FileTree) (arguments : List String)
      (options : CommandLine.Options) (path : String) (bytes : List UInt8),
      CommandLine.parse arguments = .scan options →
      options.output = some path → path ≠ "" → '\x00' ∉ path.toList →
      tree.read (Path.ofString options.source) = .ok bytes →
      ∃ result, (Scan.runIn tree options.source).2 = .ok result ∧
        let stored := tree.storeDocument path (.ofResult result) options.format
        let ran := CommandLine.run environment tree arguments
        ran.2 = stored.1 ∧ ran.1.status = .ok 0 ∧
        ran.1.stdout = Report.render result none ++ "\n" ∧
        (∀ failure, stored.2 = .error failure →
          CommandLine.errorsIn ran.1.stderr =
            (if (CommandLine.loggerFor environment options).level = .critical then []
              else [.record
                { level := .error
                  logger := "bufscan.cli"
                  message := "Could not write report to " ++ path ++ ": " ++ failure.message }]) ∧
          ∀ entry, .record entry ∈ ran.1.stderr → ¬ CommandLine.SaysWritten entry) ∧
        (stored.2 = .ok () → CommandLine.errorsIn ran.1.stderr = []) := by
  constructor
  · intro tree after path document format
    constructor
    · intro failure failed
      have grown := FileTree.grownAlong_of_store_error failed
      exact ⟨grown.file_iff, grown⟩
    · intro done
      obtain ⟨target, stored⟩ := FileTree.storedAt_of_store_ok done
      exact ⟨target, _, stored, rfl, Utf8.decode_encode _,
        fun _ apart content => stored.file_iff apart content⟩
  · intro environment tree arguments options path bytes parsed asked filled plain opened
    refine ⟨_, Scan.runIn_readable opened, ?_⟩
    intro stored ran
    have ended : ran = _ := CommandLine.run_filed environment parsed asked filled opened
    have refusal : ∀ failure, stored.2 = .error failure → failure.IsRefusal := by
      intro failure failed
      exact CommandLine.isRefusal_of_storeDocument plain failed
    -- the outcome of the store is all that the notices depend on from here
    rw [ended]
    refine ⟨rfl, CommandLine.afterWriting_status refusal _ _ path,
      CommandLine.afterWriting_stdout _ _ path _, ?_, ?_⟩
    · intro failure failed
      rw [show (tree.storeDocument path _ options.format).2 = .error failure from failed]
      exact CommandLine.refused_notices environment options bytes path (refusal failure failed)
    · intro done
      rw [show (tree.storeDocument path _ options.format).2 = .ok () from done]
      exact CommandLine.written_notices environment options bytes path

theorem file_inside_file_refused :
    let source := Utf8.encode "gets(s);".toList
    let tree := (FileTree.empty ["home"]).put ["home", "a.c"] (.file source)
    (tree.storeDocument "a.c/x" (.int 7) .yaml).1.entryAt? ["home", "a.c"] =
      some (.file source) ∧
    (∃ target, FileTree.StoredAt (Path.ofString "out/r") [55] tree
      (tree.storeDocument "out/r" (.int 7) .json).1 target) ∧ Utf8.decode [55] = "7".toList ∧
    CommandLine.errorsIn (CommandLine.run none tree ["--out=a.c/x", "a.c"]).1.stderr =
      [.record ⟨.error, "bufscan.cli",
        "Could not write report to a.c/x: [Errno 17] File exists: 'a.c'"⟩] ∧
    CommandLine.errorsIn (CommandLine.run (some "error") tree ["a.c", "--out", "out/r"]).1.stderr =
      [] := by
  intro source tree
  have opened : tree.read (Path.ofString "a.c") = .ok source := by rfl
  have inside : CommandLine.parse ["--out=a.c/x", "a.c"] =
      .scan ⟨"a.c", .json, some "a.c/x", 0⟩ := by
    decide +kernel
  have beside : CommandLine.parse ["a.c", "--out", "out/r"] =
      .scan ⟨"a.c", .json, some "out/r", 0⟩ := by
    decide +kernel
  have refused (document : Document) (format : Format) :
      (tree.storeDocument "a.c/x" document format).2 =
        .error (.refused .alreadyExists (Path.ofString "a.c")) := by
    rfl
  have stores (document : Document) (format : Format) :
      (tree.storeDocument "out/r" document format).2 = .ok () := by
    rfl
  have written : (Document.int 7).serialise .json = "7".toList := by decide +kernel
  have digit : Utf8.encode "7".toList = [55] := by decide +kernel
  have message : (Failure.refused .alreadyExists (Path.ofString "a.c")).message =
      "[Errno 17] File exists: 'a.c'" := by
    decide +kernel
  obtain ⟨target, bytes, stored, encoded, decoded, -⟩ :=
    (report_file_touches_target_only.1 tree _ "out/r" (.int 7) .json).2
      (Prod.ext rfl (stores _ _))
  rw [written] at encoded decoded
  rw [digit] at encoded
  subst encoded
  refine ⟨?_, ⟨target, stored⟩, decoded, ?_, ?_⟩
  · obtain ⟨files, -⟩ := (report_file_touches_target_only.1 tree _ "a.c/x" (.int 7) .yaml).1 _
      (Prod.ext rfl (refused _ _))
    exact (files ["home", "a.c"] source).mpr rfl
  · -- the report would stand inside a file, and no folder can be made of that
    obtain ⟨result, -, -, -, -, failed, -⟩ :=
      report_file_touches_target_only.2 none tree _ _ "a.c/x" source inside rfl (by decide)
        (by decide) opened
    have logged := (failed _ (refused _ _)).1.trans (if_neg (by decide +kernel))
    rwa [message] at logged
  · obtain ⟨result, -, -, -, -, -, done⟩ :=
      report_file_touches_target_only.2 (some "error") tree _ _ "out/r" source beside rfl
        (by decide) (by decide) opened
    exact done (stores _ _)

end OverflowScan
