import OverflowScan.Report
import OverflowScan.ReportFile
import OverflowScan.Scan

set_option autoImplicit false

namespace OverflowScan

structure Session where
  result : ScanResult
  tree : FileTree
  environment : Option String
  logger : Logger
  deriving DecidableEq, Repr

namespace Session

inductive Step where
  | write (path : String) (content : List UInt8)
  | makeFolder (path : String)
  | remove (path : String)
  | verbosity (n : Int)
  | reset (source : String)
  | pass (pass : Pass) (path : String)
  | scanLine (line : List Char) (number : Int)
  | add (subject : String) (number : Int) (description severity rule : String)
  | scan (source : String)
  | report (name : Option String)
  | showResult
  | showRows
  | saveReport (path : String) (format : Format)
  deriving DecidableEq, Repr

inductive Reply where
  | done
  | appended (findings : List Finding) (summary : Summary) (records : List Record)
  | added (line : String) (summary : Summary)
  | scanned (result : ScanResult) (records : List Record)
  | report (text : String)
  | result (result : ScanResult)
  | rows (summary : Summary)
  | saved (text : List Char)
  | failed (failure : Failure)
  deriving DecidableEq, Repr

def start (source : String) (home : Location) (environment : Option String) : Session where
  result := { source := source }
  tree := FileTree.empty home
  environment := environment
  logger := Logger.unconfigured.acquire environment

def withTree (session : Session) (change : FileTree × Except Failure Unit) : Session × Reply :=
  ({ session with tree := change.1 },
    match change.2 with
    | .ok () => .done
    | .error failure => .failed failure)

/-- The session with a grown result and the answer that shows what was appended. -/
def withResult (session : Session) (grown : ScanResult) (records : List Record) :
    Session × Reply :=
  ({ session with result := grown },
    .appended (grown.findings.drop session.result.findings.length) grown.summary
      (session.logger.emitAll records))

/-- One step: the session after it and its answer. -/
def step (session : Session) : Step → Session × Reply
  | .write path content => session.withTree (session.tree.store (Path.ofString path) content)
  | .makeFolder path => session.withTree (session.tree.ensureFolder (Path.ofString path))
  | .remove path =>
    match session.tree.remove (Path.ofString path) with
    | .ok tree => session.withTree (tree, .ok ())
    | .error failure => (session, .failed failure)
  | .verbosity n =>
    ({ session with logger := session.logger.setVerbosity session.environment n }, .done)
  | .reset source => ({ session with result := { source := source } }, .done)
  | .pass pass path =>
    match pass.apply (session.tree.read (Path.ofString path)) session.result with
    | .ok (grown, records) => session.withResult grown records
    | .error failure => (session, .failed failure)
  | .scanLine line number =>
    session.withResult (session.result.addAll (LinePass.lineFindings number line)) []
  | .add subject number description severity rule =>
    match Severity.ofText? severity with
    | some severity =>
      let finding : Finding := ⟨subject, number, description, severity, rule⟩
      let grown := session.result.add finding
      ({ session with result := grown }, .added finding.line grown.summary)
    | none => (session, .failed (.badSeverity severity))
  | .scan source =>
    match Scan.runIn session.tree source with
    | (records, .ok result) =>
      ({ session with result := result }, .scanned result (session.logger.emitAll records))
    | (_, .error failure) => (session, .failed failure)
  | .report name => (session, .report (Report.render session.result name))
  | .showResult => (session, .result session.result)
  | .showRows => (session, .rows session.result.summary)
  | .saveReport path format =>
    let document := Document.ofResult session.result
    match session.tree.storeDocument path document format with
    | (tree, .ok ()) => ({ session with tree := tree }, .saved (document.serialise format))
    | (tree, .error failure) => ({ session with tree := tree }, .failed failure)

def run (session : Session) : List Step → Session × List Reply
  | [] => (session, [])
  | first :: rest =>
    let next := session.step first
    let final := next.1.run rest
    (final.1, next.2 :: final.2)

end Session

end OverflowScan
