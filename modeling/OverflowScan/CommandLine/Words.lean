import OverflowScan.Text.Digit

set_option autoImplicit false

/- The words of a command line. A word that starts with a dash is an option, unless it is a lone
dash, looks like a negative number or holds a space. A long option may be cut short as long as what
is left fits only one spelling, and its value may follow an equals sign. Short options may be
written together behind one dash. -/
namespace OverflowScan.CommandLine

inductive Flag where
  | help
  | format
  | output
  | verbose
  | version
  deriving DecidableEq, Repr

structure Spelling where
  text : String
  flag : Flag
  deriving DecidableEq, Repr

def spellings : List Spelling :=
  [⟨"-h", .help⟩, ⟨"--help", .help⟩, ⟨"--format", .format⟩, ⟨"--out", .output⟩,
   ⟨"--output", .output⟩, ⟨"-v", .verbose⟩, ⟨"--verbose", .verbose⟩, ⟨"--version", .version⟩]

namespace Flag

def takesValue : Flag → Bool
  | .format | .output => true
  | .help | .verbose | .version => false

/-- The name of an option in messages: all its spellings. -/
def title (flag : Flag) : String :=
  String.intercalate "/" ((spellings.filter (·.flag = flag)).map Spelling.text)

end Flag

def spelling? (text : List Char) : Option Spelling :=
  spellings.find? fun spelling => spelling.text.toList = text

def spellingsFrom (text : List Char) : List Spelling :=
  spellings.filter fun spelling => text.isPrefixOf spelling.text.toList

inductive Word where
  | plain
  | unknown
  | ambiguous (candidates : List String)
  /-- A long option, with the text after its equals sign. -/
  | long (flag : Flag) (value : Option (List Char))
  /-- A short option, with the text attached to it. -/
  | short (flag : Flag) (attached : Option (List Char))
  deriving DecidableEq, Repr

def Word.ofSpelling (spelling : Spelling) (value : Option (List Char)) : Word :=
  if "--".toList.isPrefixOf spelling.text.toList then .long spelling.flag value
  else .short spelling.flag value

def isDigits (text : List Char) : Bool :=
  !text.isEmpty && text.all Text.isDecimalDigit

def dropFinalLineFeed (text : List Char) : List Char :=
  if text.getLast? = some '\n' then text.dropLast else text

/-- Whether a text after a dash makes a negative number, whole or with a point. -/
def isUnsignedNumber (text : List Char) : Bool :=
  let text := dropFinalLineFeed text
  isDigits text ||
    match text.dropWhile Text.isDecimalDigit with
    | '.' :: decimals => isDigits decimals
    | _ => false

def splitEquals (text : List Char) : List Char × Option (List Char) :=
  (text.takeWhile (· ≠ '='), (text.dropWhile (· ≠ '=')).tail?)

def unmatched (text : List Char) : Word :=
  if isUnsignedNumber text.tail then .plain
  else if text.contains ' ' then .plain
  else .unknown

/-- A word of at least two characters that starts with a dash and is no exact spelling. -/
def classifyInexact (text : List Char) : Word :=
  let parts := splitEquals text
  match spelling? parts.1, parts.2 with
  | some spelling, some value => .ofSpelling spelling value
  | _, _ =>
    if "--".toList.isPrefixOf text then
      match spellingsFrom parts.1 with
      | [] => unmatched text
      | [spelling] => .long spelling.flag parts.2
      | several => .ambiguous (several.map Spelling.text)
    else
      match spelling? (text.take 2) with
      | some spelling => .short spelling.flag (text.drop 2)
      | none => unmatched text

def classify (word : String) : Word :=
  match word.toList with
  | '-' :: rest =>
    match spelling? word.toList with
    | some spelling => .ofSpelling spelling none
    | none => if rest.isEmpty then .plain else classifyInexact word.toList
  | _ => .plain

end OverflowScan.CommandLine
