import OverflowScan.Pattern.Search

set_option autoImplicit false

namespace OverflowScan.Catalog

open Pattern

def blanks : Pattern := .many .blank

def gap : Pattern := .atLeastOne .blank

def name : Pattern := .atLeastOne .identifier

/-- A pattern that is looked for line by line, with the description of what it reports. -/
structure Entry where
  pattern : Pattern
  description : String

/-- A call of a string function that knows no bound. The name is group 1. -/
def unsafeCall : Entry where
  pattern := sequence
    [.boundary,
     .group 1 (choice (lit "strcpy") [lit "strcat", lit "sprintf", lit "gets", lit "scanf"]),
     blanks, lit "("]
  description := "Unsafe C string function"

def fixedBuffer : Entry where
  pattern := sequence
    [.boundary, lit "char", gap, name, blanks, lit "[", .atLeastOne .digit, lit "]"]
  description := "Fixed-size buffer declaration"

def memoryCopy : Entry where
  pattern := sequence
    [.boundary, lit "memcpy", blanks, lit "(", .atLeastOne (.butNot ','), lit ",",
     .atLeastOne (.butNot ','), lit ",", .atLeastOne (.butNot ')'), lit ")"]
  description := "Potential unsafe memcpy"

def dynamicArray : Entry where
  pattern := sequence
    [.boundary, lit "new", gap, lit "char", blanks, lit "[", .atLeastOne (.butNot ']'), lit "]"]
  description := "Dynamic array allocation"

def standardCopy : Entry where
  pattern := sequence [.boundary, lit "std::copy", blanks, lit "("]
  description := "std::copy without bounds checking"

/-- The head of a loop up to and including its opening brace. The three clauses are groups 1 to 3
where `clause` makes them so. -/
def loopHead (clause : Nat → Pattern → Pattern) : List Pattern :=
  [lit "for", blanks, lit "(", clause 1 (.many (.butNot ';')), lit ";",
   clause 2 (.many (.butNot ';')), lit ";", clause 3 (.many (.butNot ')')), lit ")",
   blanks, lit "\x7b"]

def loopWithAccess : Entry where
  pattern := sequence
    (loopHead (fun _ clause => clause) ++
      [.many (.butNot '\x7d'), lit "[", .many (.butNot ']'), lit "]"])
  description := "Loop with array access"

/-- The patterns of the line pass, in the order in which their findings are reported. -/
def lineEntries : List Entry :=
  [unsafeCall, fixedBuffer, memoryCopy, dynamicArray, standardCopy, loopWithAccess]

def arrayAccess : Pattern :=
  sequence [lit "[", .group 1 (.atLeastOne (.butNot ']')), lit "]"]

def identifier : Pattern :=
  .seq (.one .identifierStart) (.many .identifier)

def highSeveritySubjects : List String := ["gets", "strcpy"]

/-- A loop up to the first closing brace after its head. The clauses are groups 1 to 3, the body is
group 4. -/
def loop : Pattern :=
  sequence (loopHead .group ++ [.group 4 (.many (.butNot '\x7d')), lit "\x7d"])

def bodyAccess : Pattern :=
  sequence [lit "[", .atLeastOne (.butNot ']'), lit "]"]

/-- A comparison by `<` with a size, a length or something less one. -/
def boundCheck : Pattern :=
  sequence
    [blanks, name, blanks, lit "<", blanks, name,
     .optional (.group 1 (sequence [lit ".", name])),
     .group 2
       (choice (lit ".size()") [lit ".length", sequence [blanks, lit "-", blanks, lit "1"]])]

/-- The head of a function definition up to and including its opening brace. The return type, the
name and the parameters are groups 1 to 3. -/
def function : Pattern :=
  sequence
    [.boundary,
     .group 1
       (choice (lit "void")
         [lit "int", lit "char", lit "bool", lit "std::string", lit "auto"]),
     gap, .group 2 name, blanks, lit "(", .group 3 (.many (.butNot ')')), lit ")", blanks,
     lit "\x7b"]

def pointerParameter : Pattern :=
  sequence
    [.group 1 (choice (lit "char") [lit "int", lit "float", lit "double"]), blanks, lit "*",
     blanks, name]

def assignment : Pattern :=
  sequence [lit "=", blanks, .many (.butNot ';'), lit ";"]

end OverflowScan.Catalog
