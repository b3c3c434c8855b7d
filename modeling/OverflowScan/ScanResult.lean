import OverflowScan.Finding

set_option autoImplicit false

namespace OverflowScan

structure Summary where
  high : Int := 0
  medium : Int := 0
  low : Int := 0
  deriving DecidableEq, Repr

namespace Summary

def count (summary : Summary) : Severity → Int
  | .high => summary.high
  | .medium => summary.medium
  | .low => summary.low

def increment (summary : Summary) : Severity → Summary
  | .high => { summary with high := summary.high + 1 }
  | .medium => { summary with medium := summary.medium + 1 }
  | .low => { summary with low := summary.low + 1 }

/-- The counts in reporting order. -/
def rows (summary : Summary) : List (Severity × Int) :=
  Severity.all.map fun severity => (severity, summary.count severity)

def total (summary : Summary) : Int :=
  (Severity.all.map summary.count).foldr (· + ·) 0

end Summary

/-- The findings of a scan in the order in which they were added. -/
structure ScanResult where
  source : String
  summary : Summary := {}
  findings : List Finding := []
  deriving DecidableEq, Repr

namespace ScanResult

def add (result : ScanResult) (finding : Finding) : ScanResult :=
  { result with
    summary := result.summary.increment finding.severity
    findings := result.findings ++ [finding] }

def addAll (result : ScanResult) (findings : List Finding) : ScanResult :=
  findings.foldl add result

end ScanResult

end OverflowScan
