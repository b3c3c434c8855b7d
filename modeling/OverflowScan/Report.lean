import OverflowScan.ScanResult

set_option autoImplicit false

namespace OverflowScan.Report

/-- The whole report of a result without findings. -/
def noFindings : String := "No potential buffer overflow vulnerabilities detected."

def separator : String := String.ofList (List.replicate 69 '-')

def disclaimer : List String :=
  ["Note: This is a static analysis and may produce false positives.",
   "Each finding should be manually verified."]

def header (count : Nat) (name : String) : String :=
  "Detected " ++ Nat.repr count ++ " potential buffer overflow vulnerabilities in " ++ name ++ ":"

def lines (result : ScanResult) (name : String) : List String :=
  [header result.findings.length name, separator] ++ result.findings.map Finding.line ++
    [separator] ++ disclaimer

/-- The report of a result. The header names the source of the result unless a name is given. -/
def render (result : ScanResult) (name? : Option String) : String :=
  if result.findings.isEmpty then noFindings
  else String.intercalate "\n" (lines result (name?.getD result.source))

end OverflowScan.Report
