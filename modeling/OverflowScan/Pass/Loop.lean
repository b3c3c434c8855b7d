import OverflowScan.Catalog
import OverflowScan.ScanResult
import OverflowScan.Text.Lines

set_option autoImplicit false

namespace OverflowScan.LoopPass

def name : String := "loop_boundary"

def subject : String := "Loop boundary"

def description : String := "Loop may have improper boundary checking for array access"

/-- The finding for a loop, if it indexes an array without a clear bound. -/
def loopFinding? (text : List Char) (found : Match) : Option Finding :=
  let condition := (found.group? 2).getD []
  let body := (found.group? 4).getD []
  if Catalog.bodyAccess.occursIn body ∧ ¬ Catalog.boundCheck.occursIn condition then
    some {
      subject := subject
      lineNumber := Text.lineNumberAt text found.start
      description := description
      severity := .medium
      rule := name }
  else none

def findings (text : List Char) : List Finding :=
  (Catalog.loop.findAll text).filterMap (loopFinding? text)

end OverflowScan.LoopPass
