import OverflowScan.CommandLine.Help
import OverflowScan.CommandLine.Parse
import OverflowScan.Report
import OverflowScan.Scan

set_option autoImplicit false

namespace OverflowScan.CommandLine

/-- A piece of the error output: a log record or a message of its own. -/
inductive Notice where
  | record (entry : Record)
  | message (text : String)
  deriving DecidableEq, Repr

def Notice.render (clock : String) : Notice → String
  | .record entry => entry.render clock
  | .message text => text

/-- What a run leaves behind: its exit status, or the failure that ended it, and its output. -/
structure Output where
  status : Except Failure Nat
  stdout : String
  stderr : List Notice

structure Order where
  path : String
  document : Document
  format : Format

def usageStatus : Nat := 1

def usageOutput (error : UsageError) : Output where
  status := .ok usageStatus
  stdout := ""
  stderr := [.message (usageText ++ program ++ ": error: " ++ error.message ++ "\n")]

def loggerFor (environment : Option String) (options : Options) : Logger :=
  (Logger.unconfigured.acquire environment).setVerbosity environment options.verbosity

def padRight (width : Nat) (word : String) : String :=
  word ++ String.ofList (List.replicate (width - word.length) ' ')

def rowRecord (row : Severity × Int) : Record where
  level := .info
  logger := Scan.loggerName
  message := padRight 6 row.1.text ++ " " ++ Text.decimal row.2

def noticesOf (logger : Logger) (records : List Record) : List Notice :=
  (logger.emitAll records).map .record

def openMessage (source : String) : String :=
  "Error: Could not open file " ++ source ++ "\n"

/-- The report file that the options ask for, if any. An empty path asks for none. -/
def orderFor (options : Options) (result : ScanResult) : Option Order :=
  match options.output with
  | some path => if path = "" then none else some ⟨path, .ofResult result, options.format⟩
  | none => none

/-- The scan of a source whose content is given: the output so far, and the report file that is
still to be written. -/
def scanOutput (environment : Option String) (options : Options)
    (content : Except Failure (List UInt8)) : Output × Option Order :=
  let logger := loggerFor environment options
  match Scan.run options.source content with
  | (records, .error (.unopenable _ _)) =>
    (⟨.ok 0, "", noticesOf logger records ++ [.message (openMessage options.source)]⟩, none)
  | (records, .error failure) => (⟨.error failure, "", noticesOf logger records⟩, none)
  | (records, .ok result) =>
    (⟨.ok 0, Report.render result none ++ "\n",
        noticesOf logger (records ++ result.summary.rows.map rowRecord)⟩,
      orderFor options result)

def writtenRecord (path : String) : Record where
  level := .info
  logger := Scan.loggerName
  message := "Report written to " ++ path

def unwrittenRecord (path : String) (failure : Failure) : Record where
  level := .error
  logger := Scan.loggerName
  message := "Could not write report to " ++ path ++ ": " ++ failure.message

def afterWriting (logger : Logger) (output : Output) (path : String) :
    Except Failure Unit → Output
  | .ok () => { output with stderr := output.stderr ++ noticesOf logger [writtenRecord path] }
  | .error (.refused cause refused) =>
    { output with
      stderr := output.stderr ++
        noticesOf logger [unwrittenRecord path (.refused cause refused)] }
  | .error failure => { output with status := .error failure }

/-- A run with the given arguments in a tree of files: its output and the tree after it. -/
def run (environment : Option String) (tree : FileTree) (arguments : List String) :
    Output × FileTree :=
  match parse arguments with
  | .help => (⟨.ok 0, helpText, []⟩, tree)
  | .version => (⟨.ok 0, versionText, []⟩, tree)
  | .usage error => (usageOutput error, tree)
  | .scan options =>
    match scanOutput environment options (tree.read (Path.ofString options.source)) with
    | (output, none) => (output, tree)
    | (output, some order) =>
      let stored := tree.storeDocument order.path order.document order.format
      (afterWriting (loggerFor environment options) output order.path stored.2, stored.1)

end OverflowScan.CommandLine
