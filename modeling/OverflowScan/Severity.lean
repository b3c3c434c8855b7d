set_option autoImplicit false

namespace OverflowScan

/-- The severities, highest first. -/
inductive Severity where
  | high
  | medium
  | low
  deriving DecidableEq, Repr

namespace Severity

def all : List Severity := [.high, .medium, .low]

def text : Severity → String
  | .high => "High"
  | .medium => "Medium"
  | .low => "Low"

/-- The severity whose word is given; the words are case sensitive. -/
def ofText? (word : String) : Option Severity :=
  all.find? fun severity => severity.text == word

end Severity

end OverflowScan
