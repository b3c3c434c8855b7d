import OverflowScan.Failure
import OverflowScan.Log
import OverflowScan.Pass.Function
import OverflowScan.Pass.Line
import OverflowScan.Pass.Loop
import OverflowScan.Text.Utf8

set_option autoImplicit false

namespace OverflowScan

inductive Pass where
  | line
  | loop
  | function
  deriving DecidableEq, Repr

namespace Pass

/-- The passes in the order in which they run, which is the order of their findings. -/
def all : List Pass := [.line, .loop, .function]

def name : Pass → String
  | .line => LinePass.name
  | .loop => LoopPass.name
  | .function => FunctionPass.name

def findings : Pass → List Char → List Finding
  | .line => LinePass.findings
  | .loop => LoopPass.findings
  | .function => FunctionPass.findings

def countRecord (pass : Pass) (count : Nat) : Record where
  level := .debug
  logger := Logger.fullName pass.name
  message := pass.name ++ ": " ++ Nat.repr count ++ " finding(s)"

def skipRecord (pass : Pass) (failure : Failure) : Record where
  level := .warning
  logger := Logger.fullName pass.name
  message := pass.name ++ " skipped: " ++ failure.message

/-- Runs a pass over the content of a source: the result with its findings, and its records. -/
def apply (pass : Pass) (content : Except Failure (List UInt8)) (result : ScanResult) :
    Except Failure (ScanResult × List Record) :=
  match content with
  | .ok bytes =>
    let found := pass.findings (Utf8.decode bytes)
    .ok (result.addAll found, [pass.countRecord found.length])
  | .error failure =>
    match pass, failure with
    | .line, _ => .error failure
    | _, .unopenable _ _ => .ok (result, [pass.skipRecord failure])
    | _, _ => .error failure

end Pass

end OverflowScan
