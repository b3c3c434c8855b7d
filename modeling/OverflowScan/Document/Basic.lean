import OverflowScan.ScanResult

set_option autoImplicit false

namespace OverflowScan

/-- A piece of structured data. -/
inductive Document where
  | null
  | bool (value : Bool)
  | int (value : Int)
  | text (value : String)
  | list (items : List Document)
  | map (fields : List (String × Document))
  deriving Inhabited, Repr

namespace Document

def ofFinding (finding : Finding) : Document :=
  .map
    [("subject", .text finding.subject), ("line_number", .int finding.lineNumber),
     ("description", .text finding.description), ("severity", .text finding.severity.text),
     ("rule", .text finding.rule)]

def ofSummary (summary : Summary) : Document :=
  .map
    [("high", .int summary.high), ("medium", .int summary.medium), ("low", .int summary.low),
     ("total", .int summary.total)]

def ofResult (result : ScanResult) : Document :=
  .map
    [("source", .text result.source), ("summary", ofSummary result.summary),
     ("findings", .list (result.findings.map ofFinding))]

end Document

end OverflowScan
