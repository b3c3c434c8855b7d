import OverflowScan.CommandLine.Run
import Std.Time

set_option autoImplicit false

namespace OverflowScan.Program

def levelVariable : String := "BUFSCAN_LOG"

/-- The refusal behind an error of a file operation. -/
def refusalOf : IO.Error → Refusal
  | .noFileOrDirectory _ _ _ => .noEntry
  | .alreadyExists _ _ _ => .alreadyExists
  | .inappropriateType _ code _ => if code = 20 then .notDirectory else .isDirectory
  | .invalidArgument _ code text =>
    if code = 36 then .nameTooLong else .other code.toNat text
  | .permissionDenied _ code text => .other code.toNat text
  | .resourceExhausted _ code text => .other code.toNat text
  | .otherError code text => .other code.toNat text
  | _ => .other 5 "Input/output error"

def readSource (path : Path) : IO (Except Failure (List UInt8)) := do
  if FileTree.hasNull path then return .error .nullByte
  try
    let bytes ← IO.FS.readBinFile path.text
    return .ok bytes.toList
  catch error => return .error (.unopenable (refusalOf error) path)

/-- Writes the report file and makes the folders above it that are missing. -/
def writeReport (order : CommandLine.Order) : IO (Except Failure Unit) := do
  let path := Path.ofString order.path
  if FileTree.hasNull path then return .error .nullByte
  try
    IO.FS.createDirAll path.parent.text
  catch error => return .error (.refused (refusalOf error) path.parent)
  try
    IO.FS.writeFile path.text (String.ofList (order.document.serialise order.format))
    return .ok ()
  catch error => return .error (.refused (refusalOf error) path)

def clock : IO String := do
  let now ← Std.Time.PlainDateTime.now
  return now.format "uuuu-MM-dd HH:mm:ss"

def conclude (output : CommandLine.Output) : IO UInt32 := do
  let time ← clock
  IO.print output.stdout
  for notice in output.stderr do
    IO.eprint (notice.render time)
  match output.status with
  | .ok status => return status.toUInt32
  | .error failure => throw (IO.userError failure.message)

end OverflowScan.Program

open OverflowScan OverflowScan.Program in
/-- Scans the source that the arguments name. -/
def main (arguments : List String) : IO UInt32 := do
  let environment ← IO.getEnv levelVariable
  match CommandLine.parse arguments with
  | .help => conclude ⟨.ok 0, CommandLine.helpText, []⟩
  | .version => conclude ⟨.ok 0, CommandLine.versionText, []⟩
  | .usage error => conclude (CommandLine.usageOutput error)
  | .scan options =>
    let content ← readSource (Path.ofString options.source)
    match CommandLine.scanOutput environment options content with
    | (output, none) => conclude output
    | (output, some order) =>
      let outcome ← writeReport order
      let logger := CommandLine.loggerFor environment options
      conclude (CommandLine.afterWriting logger output order.path outcome)
