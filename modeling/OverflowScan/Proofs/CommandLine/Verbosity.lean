import OverflowScan.Proofs.CommandLine.AnyOrder
import OverflowScan.Proofs.CommandLine.Outcome
import OverflowScan.Proofs.Log

set_option autoImplicit false

namespace OverflowScan.CommandLine

def Options.louder (options : Options) : Options :=
  { options with verbosity := options.verbosity + 1 }

def Request.louder : Request → Request
  | .scan options => .scan options.louder
  | request => request

namespace Settings

def louder (settings : Settings) : Settings :=
  { settings with verbosity := settings.verbosity + 1 }

def louderNext : Except Request Settings → Except Request Settings
  | .ok settings => .ok settings.louder
  | .error request => .error request.louder

theorem takePlain_louder (settings : Settings) (word : String) :
    settings.louder.takePlain word = (settings.takePlain word).louder := by
  obtain ⟨source, format, output, verbosity, leftOver⟩ := settings
  cases source <;> rfl

theorem takeFlag_louder (settings : Settings) (flag : Flag) :
    settings.louder.takeFlag flag = louderNext (settings.takeFlag flag) := by
  cases flag <;> rfl

theorem takeFlags_louder (settings : Settings) (flags : List Flag) :
    settings.louder.takeFlags flags = louderNext (settings.takeFlags flags) := by
  induction flags generalizing settings with
  | nil => rfl
  | cons flag rest ih =>
    rw [takeFlags, takeFlag_louder, takeFlags]
    cases settings.takeFlag flag with
    | ok next => exact ih next
    | error request => rfl

theorem takeValue_louder (settings : Settings) (flag : Flag) (value : String) :
    settings.louder.takeValue flag value = louderNext (settings.takeValue flag value) := by
  cases flag with
  | format =>
    simp only [takeValue]
    split
    · rfl
    · split <;> rfl
  | help | output | verbose | version => rfl

theorem finish_louder (settings : Settings) :
    settings.louder.finish = settings.finish.louder := by
  obtain ⟨source, format, output, verbosity, leftOver⟩ := settings
  cases source with
  | none => rfl
  | some source => cases leftOver <;> rfl

end Settings

theorem takeShort_louder (settings : Settings) (flag : Flag) (attached : List Char) :
    takeShort settings.louder flag attached =
      Settings.louderNext (takeShort settings flag attached) := by
  unfold takeShort
  split
  · exact settings.takeFlags_louder _
  · rfl

theorem readPlain_louder (settings : Settings) (adjacent : Bool) (words : List String) :
    readPlain settings.louder adjacent words = (readPlain settings adjacent words).louder := by
  obtain ⟨source, format, output, verbosity, leftOver⟩ := settings
  cases source with
  | none => cases words <;> rfl
  | some source => rfl

/-- Reading does not depend on the verbosity that the words before have asked for. -/
theorem read_louder (settings : Settings) (adjacent : Bool) (words : List String) :
    read settings.louder adjacent words = (read settings adjacent words).louder := by
  fun_induction read settings adjacent words with
  | case1 settings adjacent => exact settings.finish_louder
  | case2 settings adjacent rest =>
    rw [read, if_pos rfl, readPlain_louder, Settings.finish_louder]
  | case3 settings adjacent word rest other plain ih =>
    rw [read, if_neg other, plain, settings.takePlain_louder]
    exact ih
  | case4 settings adjacent word rest other unknown ih =>
    rw [read, if_neg other, unknown]
    exact ih
  | _ =>
    -- an option does the same to both settings, and what follows is read alike
    simp_all [read, takeShort_louder, Settings.takeFlag_louder, Settings.takeValue_louder,
      Settings.louderNext, Request.louder]

/-- The command line with one more flag in front. A lone argument is the source whatever it looks
like, and a double dash keeps it that. -/
def addFlag : List String → List String
  | [source] => ["-v", "--", source]
  | arguments => "-v" :: arguments

theorem parseWords_flag {words : List String} {options : Options}
    (parsed : parseWords words = .scan options) :
    parseWords ("-v" :: words) = .scan options.louder := by
  have certain : ambiguity? ("-v" :: words) = ambiguity? words :=
    ambiguity?_append (Group.letters 0).clear words
  have flag : read {} false ("-v" :: words) = read (Settings.louder {}) false words :=
    read_group {} false (.letters 0) words
  unfold parseWords at parsed ⊢
  rw [certain, flag, read_louder]
  split at parsed
  · cases parsed
  · rw [parsed, Request.louder]

theorem parse_addFlag {arguments : List String} {options : Options}
    (parsed : parse arguments = .scan options) :
    parse (addFlag arguments) = .scan options.louder := by
  unfold addFlag
  split
  · rename_i source
    have marked : parseWords ["--", source] = .scan options := parsed
    exact parseWords_flag marked
  · rename_i several
    have counted : arguments.length ≠ 1 := by
      intro one
      obtain ⟨source, rfl⟩ := List.length_eq_one_iff.mp one
      exact several source rfl
    rw [parse_of_length_ne_one counted] at parsed
    have filled : arguments ≠ [] := by
      rintro rfl
      cases parsed
    rw [parse_of_length_ne_one (by simpa using filled)]
    exact parseWords_flag parsed

def Notice.record? : Notice → Option Record
  | .record entry => some entry
  | .message _ => none

def Output.records (output : Output) : List Record :=
  output.stderr.filterMap Notice.record?

theorem filterMap_noticesOf (logger : Logger) (records : List Record) :
    (noticesOf logger records).filterMap Notice.record? = logger.emitAll records := by
  rw [noticesOf, List.filterMap_map]
  exact List.filterMap_some

def fileRecords (path : String) : Except Failure Unit → List Record
  | .ok () => [writtenRecord path]
  | .error (.refused cause refused) => [unwrittenRecord path (.refused cause refused)]
  | .error _ => []

theorem afterWriting_stderr (logger : Logger) (output : Output) (path : String)
    (outcome : Except Failure Unit) :
    (afterWriting logger output path outcome).stderr =
      output.stderr ++ noticesOf logger (fileRecords path outcome) := by
  match outcome with
  | .ok () => rfl
  | .error (.refused _ _) => rfl
  | .error .nullByte => exact (List.append_nil _).symm
  | .error (.unopenable _ _) => exact (List.append_nil _).symm
  | .error (.badSeverity _) => exact (List.append_nil _).symm

/-- What a run on a source that can be read logs, before any logger is asked. -/
def loggedOf (tree : FileTree) (options : Options) (bytes : List UInt8) : List Record :=
  let result := Scan.resultOf options.source bytes
  Pass.all.flatMap (Scan.passRecords (Path.ofString options.source) (Utf8.decode bytes)) ++
    result.summary.rows.map rowRecord ++
    match orderFor options result with
    | none => []
    | some order =>
      fileRecords order.path (tree.storeDocument order.path order.document order.format).2

def logged (tree : FileTree) (options : Options) : List Record :=
  match tree.read (Path.ofString options.source) with
  | .ok bytes => loggedOf tree options bytes
  | .error _ => [Scan.announcement .line (Path.ofString options.source)]

/-- A run logs the same whatever the verbosity is. -/
theorem logged_louder (tree : FileTree) (options : Options) :
    logged tree options.louder = logged tree options := rfl

theorem records_run (environment : Option String) (tree : FileTree) {arguments : List String}
    {options : Options} (parsed : parse arguments = .scan options) :
    (run environment tree arguments).1.records =
      (loggerFor environment options).emitAll (logged tree options) := by
  cases content : tree.read (Path.ofString options.source) with
  | ok bytes =>
    rw [run_opened environment parsed content]
    simp only [logged, content, loggedOf]
    cases orderFor options (Scan.resultOf options.source bytes) with
    | none =>
      rw [List.append_nil]
      exact filterMap_noticesOf _ _
    | some order =>
      simp only [Output.records]
      rw [afterWriting_stderr, openedOutput, ← noticesOf_append]
      exact filterMap_noticesOf _ _
  | error failure =>
    simp only [run, parsed, content, scanOutput, logged]
    cases failure with
    | unopenable cause path =>
      refine (List.filterMap_append ..).trans ?_
      rw [filterMap_noticesOf]
      exact List.append_nil _
    | nullByte | refused _ _ | badSeverity _ => exact filterMap_noticesOf _ _

/-- A run logs records of the lowest level exactly if its source can be read: each pass then counts
its findings. -/
theorem exists_debug_iff (tree : FileTree) (options : Options) :
    (∃ record ∈ logged tree options, record.level = .debug) ↔
      ∃ bytes, tree.read (Path.ofString options.source) = .ok bytes := by
  cases content : tree.read (Path.ofString options.source) with
  | ok bytes =>
    have counted : Pass.line.countRecord (Pass.line.findings (Utf8.decode bytes)).length ∈
        logged tree options := by
      simp [logged, content, loggedOf, Pass.all, Scan.passRecords]
    exact iff_of_true ⟨_, counted, rfl⟩ ⟨bytes, rfl⟩
  | error failure =>
    have announced : logged tree options =
        [Scan.announcement .line (Path.ofString options.source)] := by
      rw [logged, content]
    simp [announced, Scan.announcement]

/-- The level of a run: that of the environment without a flag, and else that of the flags alone. -/
def flagLevel (environment : Option String) : Nat → Level
  | 0 => Logger.environmentLevel environment
  | 1 => .info
  | _ + 2 => .debug

theorem loggerFor_level (environment : Option String) (options : Options) :
    (loggerFor environment options).level = flagLevel environment options.verbosity := by
  have inUse := Logger.inUse_acquire_unconfigured environment
  rw [loggerFor, inUse.setVerbosity_eq]
  cases options.verbosity with
  | zero => rfl
  | succ more =>
    cases more with
    | zero => rfl
    | succ count =>
      have positive : 0 < ((count + 1 + 1 : Nat) : Int) := by omega
      have several : ¬ ((count + 1 + 1 : Nat) : Int) = 1 := by omega
      simp only [Logger.heard, Logger.levelFor, if_pos positive, if_neg several, flagLevel]

theorem emitAll_eq_filter {logger : Logger} (used : logger.handlers = 1) (records : List Record) :
    logger.emitAll records = records.filter fun record => logger.admits record.level := by
  induction records with
  | nil => rfl
  | cons record rest ih =>
    rw [Logger.emitAll, List.flatMap_cons, ← Logger.emitAll, ih, Logger.emit, used,
      List.replicate_one, List.filter_cons]
    split <;> rfl

theorem filter_sublist_filter_iff {p q : Record → Bool} (records : List Record) :
    (records.filter p).Sublist (records.filter q) ↔ ∀ record ∈ records, p record → q record := by
  constructor
  · intro kept record member holds
    exact (List.mem_filter.mp (kept.subset (List.mem_filter.mpr ⟨member, holds⟩))).2
  · intro implies
    have twice : records.filter p = (records.filter q).filter p := by
      rw [List.filter_filter]
      refine List.filter_congr fun record member => ?_
      exact (Bool.and_eq_left_iff_imp.mpr (implies record member)).symm
    rw [twice]
    exact List.filter_sublist

theorem records_eq_filter (environment : Option String) (tree : FileTree)
    {arguments : List String} {options : Options} (parsed : parse arguments = .scan options) :
    (run environment tree arguments).1.records =
      (logged tree options).filter fun record =>
        (loggerFor environment options).admits record.level := by
  rw [records_run environment tree parsed,
    emitAll_eq_filter (loggerFor_handlers environment options)]

section

variable {environment : Option String} {options : Options}

theorem admits_of_debug (quiet : options.verbosity = 0)
    (lowest : Logger.environmentLevel environment = .debug) (level : Level) :
    (loggerFor environment options).admits level = true := by
  rw [Logger.admits, loggerFor_level, quiet, flagLevel, lowest]
  exact decide_eq_true (Nat.zero_le _)

/-- The first flag admits all levels but the lowest one, whatever the environment asks for. -/
theorem admits_first_flag (quiet : options.verbosity = 0) (environment : Option String)
    (level : Level) :
    (loggerFor environment options.louder).admits level = true ↔ level ≠ .debug := by
  rw [Logger.admits, loggerFor_level, Options.louder, quiet]
  change decide (Level.info.rank ≤ level.rank) = true ↔ level ≠ .debug
  cases level <;> decide

/-- Any other flag admits what was admitted without it. -/
theorem admits_louder
    (usual : ¬ (options.verbosity = 0 ∧ Logger.environmentLevel environment = .debug))
    {level : Level} (admitted : (loggerFor environment options).admits level = true) :
    (loggerFor environment options.louder).admits level = true := by
  cases asked : options.verbosity with
  | zero =>
    rw [admits_first_flag asked]
    rintro rfl
    rw [Logger.admits, loggerFor_level, asked, flagLevel, decide_eq_true_eq] at admitted
    exact usual ⟨asked, Level.eq_debug_of_le admitted⟩
  | succ count =>
    rw [Logger.admits, loggerFor_level, Options.louder, asked]
    exact decide_eq_true (Nat.zero_le _)

end

/-- One more flag keeps all records, with one exception: the first flag, in an environment that asks
for the lowest level and on a source that can be read. -/
theorem records_sublist_iff (environment : Option String) (tree : FileTree)
    {arguments more : List String} {options : Options} (parsed : parse arguments = .scan options)
    (asked : parse more = .scan options.louder) :
    (run environment tree arguments).1.records.Sublist (run environment tree more).1.records ↔
      ¬ (options.verbosity = 0 ∧ Logger.environmentLevel environment = .debug ∧
        ∃ bytes, tree.read (Path.ofString options.source) = .ok bytes) := by
  rw [records_eq_filter environment tree parsed, records_eq_filter environment tree asked,
    logged_louder, filter_sublist_filter_iff, ← exists_debug_iff]
  constructor
  · rintro kept ⟨quiet, lowest, record, member, level⟩
    have admitted := kept record member (admits_of_debug quiet lowest record.level)
    exact (admits_first_flag quiet environment record.level).mp admitted level
  · intro usual record member admitted
    by_cases exception : options.verbosity = 0 ∧ Logger.environmentLevel environment = .debug
    · rw [admits_first_flag exception.1]
      intro level
      exact usual ⟨exception.1, exception.2, record, member, level⟩
    · exact admits_louder exception admitted

/-- One more flag on a command line raises the verbosity by one and changes nothing else. It keeps
every record, in order, unless it is the first one, the environment asks for the lowest level and
the source can be read; then it hides the records of that level, which count the findings of the
passes. -/
theorem flag_keeps_records_iff (environment : Option String) (tree : FileTree)
    (arguments : List String) (options : Options) (parsed : parse arguments = .scan options) :
    parse (addFlag arguments) = .scan options.louder ∧
    ∀ more, parse more = .scan options.louder →
      ((run environment tree arguments).1.records.Sublist (run environment tree more).1.records ↔
        ¬ (options.verbosity = 0 ∧ Logger.environmentLevel environment = .debug ∧
          ∃ bytes, tree.read (Path.ofString options.source) = .ok bytes)) ∧
      (options.verbosity = 0 → Logger.environmentLevel environment = .debug →
        (run environment tree more).1.records =
          (run environment tree arguments).1.records.filter fun record =>
            record.level ≠ .debug) := by
  refine ⟨parse_addFlag parsed, fun more asked => ?_⟩
  refine ⟨records_sublist_iff environment tree parsed asked, ?_⟩
  intro quiet lowest
  rw [records_eq_filter environment tree parsed, records_eq_filter environment tree asked,
    logged_louder, List.filter_filter]
  refine List.filter_congr fun record _ => ?_
  rw [admits_of_debug quiet lowest, Bool.and_true, Bool.eq_iff_iff, decide_eq_true_eq]
  exact admits_first_flag quiet environment record.level

theorem second_flag_keeps_records :
    let tree := (FileTree.empty ["home"]).put ["home", "a.c"]
      (.file (Utf8.encode "gets(s);".toList))
    parse (addFlag ["-v", "a.c"]) = .scan ⟨"a.c", .json, none, 2⟩ ∧
    (run (some "debug") tree ["-v", "a.c"]).1.records.Sublist
      (run (some "debug") tree ["-vv", "a.c"]).1.records ∧
    (run (some "debug") tree ["-v", "a.c"]).1.records =
      (run (some "debug") tree ["a.c"]).1.records.filter fun record => record.level ≠ .debug := by
  intro tree
  have silent : parse ["a.c"] = .scan ⟨"a.c", .json, none, 0⟩ := by decide +kernel
  have once : parse ["-v", "a.c"] = .scan ⟨"a.c", .json, none, 1⟩ := by decide +kernel
  have twice : parse ["-vv", "a.c"] = .scan ⟨"a.c", .json, none, 2⟩ := by decide +kernel
  have lowest : Logger.environmentLevel (some "debug") = .debug := by decide +kernel
  obtain ⟨raised, kept⟩ := flag_keeps_records_iff (some "debug") tree _ _ once
  obtain ⟨-, lost⟩ := flag_keeps_records_iff (some "debug") tree _ _ silent
  exact ⟨raised, (kept _ twice).1.mpr (by simp), (lost _ once).2 rfl lowest⟩

/-- The first flag hides what the environment has asked for. -/
theorem first_flag_hides_counts :
    let tree := (FileTree.empty ["home"]).put ["home", "a.c"]
      (.file (Utf8.encode "gets(s);".toList))
    parse ["a.c"] = .scan ⟨"a.c", .json, none, 0⟩ ∧
    parse ["-v", "a.c"] = .scan ⟨"a.c", .json, none, 1⟩ ∧
    ¬ (run (some "DEBUG") tree ["a.c"]).1.records.Sublist
      (run (some "DEBUG") tree ["-v", "a.c"]).1.records := by
  intro tree
  have silent : parse ["a.c"] = .scan ⟨"a.c", .json, none, 0⟩ := by decide +kernel
  have once : parse ["-v", "a.c"] = .scan ⟨"a.c", .json, none, 1⟩ := by decide +kernel
  have lowest : Logger.environmentLevel (some "DEBUG") = .debug := by decide +kernel
  have opened : tree.read (Path.ofString "a.c") = .ok (Utf8.encode "gets(s);".toList) := by
    rfl
  refine ⟨silent, once, fun kept => ?_⟩
  exact (records_sublist_iff (some "DEBUG") tree silent once).mp kept ⟨rfl, lowest, _, opened⟩

end OverflowScan.CommandLine
