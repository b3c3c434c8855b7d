import OverflowScan.Text.Blank
import OverflowScan.Text.Word

set_option autoImplicit false

/- Text patterns and the way they are matched. A pattern is matched at a cursor, that is, at a
position inside a text. Repetitions are greedy, the alternatives of a choice are tried in order, and
when what follows a piece does not match, the next possibility of that piece is tried. The first
possibility under which the whole pattern matches is the match. -/
namespace OverflowScan

inductive CharClass where
  | blank
  | digit
  | identifierStart
  | identifier
  | butNot (c : Char)
  deriving DecidableEq, Repr

def CharClass.holds : CharClass → Char → Bool
  | .blank, c => Text.isBlank c
  | .digit, c => c.isDigit
  | .identifierStart, c => c.isAlpha || c == '_'
  | .identifier, c => c.isAlphanum || c == '_'
  | .butNot excluded, c => c != excluded

/-- What a stretch of text has to look like. -/
inductive Pattern where
  | boundary
  | exactly (text : List Char)
  | one (cls : CharClass)
  /-- Any number of characters of a class, as many as possible. -/
  | many (cls : CharClass)
  | seq (first second : Pattern)
  | either (first second : Pattern)
  | optional (body : Pattern)
  /-- The pattern, whose text is remembered under a number. -/
  | group (index : Nat) (body : Pattern)
  deriving DecidableEq, Repr

namespace Pattern

def sequence : List Pattern → Pattern
  | [] => .exactly []
  | [last] => last
  | first :: rest => .seq first (sequence rest)

def choice : Pattern → List Pattern → Pattern
  | first, [] => first
  | first, second :: rest => .either first (choice second rest)

def lit (text : String) : Pattern := .exactly text.toList

def atLeastOne (cls : CharClass) : Pattern := .seq (.one cls) (.many cls)

def groupCount : Pattern → Nat
  | .boundary | .exactly _ | .one _ | .many _ => 0
  | .seq first second | .either first second => first.groupCount + second.groupCount
  | .optional body => body.groupCount
  | .group _ body => body.groupCount + 1

end Pattern

/-- A position inside a text: its distance from the start, the character before it and the text
after it. -/
structure Cursor where
  pos : Nat
  before : Option Char
  rest : List Char
  deriving DecidableEq, Repr

namespace Cursor

def start (text : List Char) : Cursor := ⟨0, none, text⟩

/-- Whether exactly one of the two neighbours is a word character. -/
def atBoundary (cursor : Cursor) : Bool :=
  cursor.before.any Text.isWord != cursor.rest.head?.any Text.isWord

def step? (cls : CharClass) : Cursor → Option Cursor
  | ⟨pos, _, c :: rest⟩ => if cls.holds c then some ⟨pos + 1, c, rest⟩ else none
  | ⟨_, _, []⟩ => none

def skip? : List Char → Cursor → Option Cursor
  | [], cursor => cursor
  | c :: text, ⟨pos, _, d :: rest⟩ => if c = d then skip? text ⟨pos + 1, d, rest⟩ else none
  | _ :: _, ⟨_, _, []⟩ => none

def textTo (start stop : Cursor) : List Char :=
  start.rest.take (stop.pos - start.pos)

end Cursor

/-- A match under way: where it stands and the groups it has passed, latest first. -/
structure Progress where
  cursor : Cursor
  groups : List (Nat × List Char)
  deriving DecidableEq, Repr

namespace Pattern

variable {α : Type}

/-- Any number of characters of a class, then `next`; the longest run comes first. -/
def runMany (cls : CharClass) (groups : List (Nat × List Char)) (next : Progress → Option α) :
    Nat → Option Char → List Char → Option α
  | pos, before, [] => next ⟨⟨pos, before, []⟩, groups⟩
  | pos, before, c :: rest =>
    if cls.holds c then
      match runMany cls groups next (pos + 1) c rest with
      | some result => result
      | none => next ⟨⟨pos, before, c :: rest⟩, groups⟩
    else next ⟨⟨pos, before, c :: rest⟩, groups⟩

/-- The result of `next` at the first possibility of the pattern under which it has one. -/
def run : Pattern → Progress → (Progress → Option α) → Option α
  | .boundary, here, next => if here.cursor.atBoundary then next here else none
  | .exactly text, here, next =>
    match here.cursor.skip? text with
    | some cursor => next ⟨cursor, here.groups⟩
    | none => none
  | .one cls, here, next =>
    match here.cursor.step? cls with
    | some cursor => next ⟨cursor, here.groups⟩
    | none => none
  | .many cls, here, next =>
    runMany cls here.groups next here.cursor.pos here.cursor.before here.cursor.rest
  | .seq first second, here, next => first.run here fun middle => second.run middle next
  | .either first second, here, next =>
    match first.run here next with
    | some result => result
    | none => second.run here next
  | .optional body, here, next =>
    match body.run here next with
    | some result => result
    | none => next here
  | .group index body, here, next =>
    body.run here fun stop =>
      next ⟨stop.cursor, (index, here.cursor.textTo stop.cursor) :: stop.groups⟩

end Pattern

end OverflowScan
