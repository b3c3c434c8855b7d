import OverflowScan.Severity
import OverflowScan.Text.Decimal

set_option autoImplicit false

namespace OverflowScan

/-- A potential vulnerability reported by one pass. -/
structure Finding where
  subject : String
  lineNumber : Int
  description : String
  severity : Severity
  rule : String
  deriving DecidableEq, Repr

def Finding.line (finding : Finding) : String :=
  "Line " ++ Text.decimal finding.lineNumber ++ ": [" ++ finding.severity.text ++ "] " ++
    finding.subject ++ " - " ++ finding.description

end OverflowScan
