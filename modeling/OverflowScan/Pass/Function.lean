import OverflowScan.Catalog
import OverflowScan.ScanResult
import OverflowScan.Text.Lines

set_option autoImplicit false

namespace OverflowScan.FunctionPass

def name : String := "function_signature"

def description : String := "Function with pointer/array parameters may have unchecked writes"

/-- The finding for a function head, if the function takes a pointer and assigns. -/
def functionFinding? (text : List Char) (found : Match) : Option Finding :=
  let parameters := (found.group? 3).getD []
  if Catalog.pointerParameter.occursIn parameters then
    match Text.bodyAt? text ((found.stop : Int) - 1) with
    | some body =>
      if Catalog.assignment.occursIn body then
        some {
          subject := String.ofList ((found.group? 2).getD [])
          lineNumber := Text.lineNumberAt text found.start
          description := description
          severity := .medium
          rule := name }
      else none
    | none => none
  else none

def findings (text : List Char) : List Finding :=
  (Catalog.function.findAll text).filterMap (functionFinding? text)

end OverflowScan.FunctionPass
