import OverflowScan.Catalog
import OverflowScan.ScanResult
import OverflowScan.Text.Lines

set_option autoImplicit false

namespace OverflowScan.LinePass

def name : String := "line_scanner"

def contextBefore : Nat := 20

/-- The number of characters by which an excerpt is longer than the occurrence in it. -/
def contextAfter : Nat := 40

/-- What is reported of an occurrence: the text of its first group, or else all of it. -/
def subject (found : Match) : String :=
  String.ofList ((found.group? 1).getD found.text)

def excerpt (line : List Char) (found : Match) : List Char :=
  (line.drop (found.start - contextBefore)).take (found.text.length + contextAfter)

def classify (subject : String) : Severity :=
  if subject ∈ Catalog.highSeveritySubjects then .high else .medium

def entryFinding (number : Int) (line : List Char) (entry : Catalog.Entry) (found : Match) :
    Finding where
  subject := subject found
  lineNumber := number
  description := entry.description ++ " in context: " ++ String.ofList (excerpt line found)
  severity := classify (subject found)
  rule := name

def accessSubject : String := "Array access"

def accessDescription (index : List Char) : String :=
  "Unchecked array access with variable: " ++ String.ofList index

def accessFinding? (number : Int) (found : Match) : Option Finding :=
  match found.group? 1 with
  | some index =>
    if (Catalog.identifier.matchWhole? index).isSome then
      some {
        subject := accessSubject
        lineNumber := number
        description := accessDescription index
        severity := .medium
        rule := name }
    else none
  | none => none

/-- The findings of one line: entry by entry, then the array accesses. -/
def lineFindings (number : Int) (line : List Char) : List Finding :=
  (Catalog.lineEntries.flatMap fun entry =>
      (entry.pattern.findAll line).map (entryFinding number line entry)) ++
    (Catalog.arrayAccess.findAll line).filterMap (accessFinding? number)

/-- The findings of consecutive lines, the first of which has the given number. -/
def findingsFrom : Nat → List (List Char) → List Finding
  | _, [] => []
  | number, line :: rest => lineFindings number line ++ findingsFrom (number + 1) rest

def findings (text : List Char) : List Finding :=
  findingsFrom 1 (Text.lines text)

end OverflowScan.LinePass
