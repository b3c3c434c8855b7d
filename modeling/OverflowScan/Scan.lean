import OverflowScan.Files.Tree
import OverflowScan.Pass

set_option autoImplicit false

namespace OverflowScan.Scan

def loggerName : String := Logger.fullName (some "cli")

def announcement (pass : Pass) (path : Path) : Record where
  level := .info
  logger := loggerName
  message := "Running " ++ pass.name ++ " on " ++ path.text

/-- Runs passes one after the other: the records of all that ran, and the result. -/
def runPasses (path : Path) (content : Except Failure (List UInt8)) :
    List Pass → ScanResult → List Record × Except Failure ScanResult
  | [], result => ([], .ok result)
  | pass :: rest, result =>
    match pass.apply content result with
    | .error failure => ([announcement pass path], .error failure)
    | .ok (grown, records) =>
      let after := runPasses path content rest grown
      (announcement pass path :: records ++ after.1, after.2)

def run (source : String) (content : Except Failure (List UInt8)) :
    List Record × Except Failure ScanResult :=
  runPasses (Path.ofString source) content Pass.all { source := source }

def runIn (tree : FileTree) (source : String) : List Record × Except Failure ScanResult :=
  run source (tree.read (Path.ofString source))

end OverflowScan.Scan
