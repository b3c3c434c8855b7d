import OverflowScan.Document.Yaml.Implicit

set_option autoImplicit false

namespace OverflowScan.Yaml

/-- The column after which a line is folded. -/
def width : Nat := 80

def isBreak (c : Char) : Bool :=
  c == '\n' || c == '\x85' || c == '\u2028' || c == '\u2029'

def isSeparator (c : Char) : Bool :=
  c == '\x00' || c == ' ' || c == '\t' || c == '\r' || isBreak c

/-- A character that is shown only by an escape. -/
def isSpecial (c : Char) : Bool :=
  let n := c.toNat
  !(c == '\n' || (' ' ≤ c && c ≤ '~')) &&
    !((n == 0x85 || (0xA0 ≤ n && n ≤ 0xFFFD) || (0x10000 ≤ n && n < 0x10FFFF)) && n != 0xFEFF)

def isLeadingIndicator (c : Char) : Bool :=
  "#,[]\x7b\x7d&*!|>'\"%@\x60".toList.contains c

def endsHere : List Char → Bool
  | [] => true
  | c :: _ => isSeparator c

/-- Whether a text, which follows the given character, has a colon at the end of a word or a number
sign at the start of one. -/
def hasInnerIndicator : Char → List Char → Bool
  | _, [] => false
  | before, c :: rest =>
    (c == ':' && endsHere rest) || (c == '#' && isSeparator before) || hasInnerIndicator c rest

def hasIndicator : List Char → Bool
  | [] => false
  | c :: rest =>
    "---".toList.isPrefixOf (c :: rest) || "...".toList.isPrefixOf (c :: rest) ||
      isLeadingIndicator c || ((c == '?' || c == ':' || c == '-') && endsHere rest) ||
      hasInnerIndicator c rest

def hasNeighbours (first second : Char → Bool) : List Char → Bool
  | c :: d :: rest => (first c && second d) || hasNeighbours first second (d :: rest)
  | _ => false

def isPlain (text : List Char) : Bool :=
  !text.isEmpty && text.head? != some ' ' && text.getLast? != some ' ' &&
    text.all (fun c => !isBreak c && !isSpecial c) && !hasIndicator text && !isImplicit text

def isSingleQuotable (text : List Char) : Bool :=
  text.all (fun c => !isSpecial c) && !hasNeighbours (· == ' ') isBreak text &&
    !hasNeighbours isBreak (· == ' ') text

inductive Style where
  | plain
  | single
  | double
  deriving DecidableEq, Repr

def styleOf (text : List Char) : Style :=
  if isPlain text then .plain else if isSingleQuotable text then .single else .double

/-- How the lines of a text are broken: the indent of the lines that follow, and whether a long line
is folded. -/
structure Folding where
  indent : Nat
  allowed : Bool
  deriving DecidableEq, Repr

def newLine (indent : Nat) : List Char :=
  '\n' :: List.replicate indent ' '

def Folding.due (folding : Folding) (column : Nat) : Bool :=
  folding.allowed && width < column

/-- A plain text from the given column on; `before` is the character just passed. -/
def plainFrom (folding : Folding) : Nat → Option Char → List Char → List Char
  | _, _, [] => []
  | column, before, c :: rest =>
    if c = ' ' ∧ before ≠ some ' ' ∧ rest.head? ≠ some ' ' ∧ folding.due column then
      newLine folding.indent ++ plainFrom folding folding.indent c rest
    else c :: plainFrom folding (column + 1) c rest

/-- The inside of single quotes from the given column on. A quote is written twice, and the first
line feed of several breaks is written once more. -/
def singleFrom (folding : Folding) : Nat → Option Char → List Char → List Char
  | _, _, [] => []
  | column, before, c :: rest =>
    if c = ' ' ∧ before ≠ none ∧ before ≠ some ' ' ∧ rest ≠ [] ∧ rest.head? ≠ some ' ' ∧
        folding.due column then
      newLine folding.indent ++ singleFrom folding folding.indent c rest
    else if c = '\'' then '\'' :: '\'' :: singleFrom folding (column + 2) c rest
    else if isBreak c then
      (if c = '\n' ∧ ¬ before.any isBreak then ['\n'] else []) ++
        (if rest.head?.any isBreak then c :: singleFrom folding 0 c rest
        else
          c :: List.replicate folding.indent ' ' ++ singleFrom folding folding.indent c rest)
    else c :: singleFrom folding (column + 1) c rest

def hexUpper (digits n : Nat) : List Char :=
  let shown := (Nat.toDigits 16 n).map Char.toUpper
  List.replicate (digits - shown.length) '0' ++ shown

def shortEscape? (c : Char) : Option Char :=
  [('\x00', '0'), ('\x07', 'a'), ('\x08', 'b'), ('\t', 't'), ('\n', 'n'), ('\x0b', 'v'),
   ('\x0c', 'f'), ('\r', 'r'), ('\x1b', 'e'), ('"', '"'), ('\\', '\\'), ('\x85', 'N'),
   ('\u2028', 'L'), ('\u2029', 'P')].lookup c

def escape (c : Char) : List Char :=
  match shortEscape? c with
  | some letter => ['\\', letter]
  | none =>
    if c.toNat ≤ 0xFF then '\\' :: 'x' :: hexUpper 2 c.toNat
    else if c.toNat ≤ 0xFFFF then '\\' :: 'u' :: hexUpper 4 c.toNat
    else '\\' :: 'U' :: hexUpper 8 c.toNat

def isEscaped (c : Char) : Bool :=
  (shortEscape? c).isSome || c == '\ufeff' ||
    !((' ' ≤ c && c ≤ '~') || (0xA0 ≤ c.toNat && c.toNat ≤ 0xFFFD))

/-- The mark that keeps a space at the start of a folded line. -/
def spaceMark (next : Option Char) : List Char :=
  if next = some ' ' then ['\\'] else []

/-- The inside of double quotes from the given column on. A line is folded after an escape, or
before a space or the first character after an escape, but neither at the first nor at the last
character; `fresh` says that the character just passed was an escape. -/
def doubleFrom (folding : Folding) (first fresh : Bool) : Nat → List Char → List Char
  | _, [] => []
  | column, c :: rest =>
    let inner := !first && !rest.isEmpty
    if isEscaped c then
      let column := column + (escape c).length
      if inner && folding.due (column - 1) then
        escape c ++ '\\' :: newLine folding.indent ++ spaceMark rest.head? ++
          doubleFrom folding false true
            (folding.indent + (spaceMark rest.head?).length) rest
      else escape c ++ doubleFrom folding false true column rest
    else if inner && (c == ' ' || fresh) && folding.due column then
      '\\' :: newLine folding.indent ++ spaceMark c ++
        c :: doubleFrom folding false false
          (folding.indent + (spaceMark c).length + 1) rest
    else c :: doubleFrom folding false false (column + 1) rest

def scalar (folding : Folding) (column : Nat) (text : List Char) : List Char :=
  match styleOf text with
  | .plain => plainFrom folding column none text
  | .single => '\'' :: singleFrom folding (column + 1) none text ++ ['\'']
  | .double => '"' :: doubleFrom folding true false (column + 1) text ++ ['"']

end OverflowScan.Yaml
