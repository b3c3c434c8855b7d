import OverflowScan.Pattern.Basic

set_option autoImplicit false

namespace OverflowScan

/-- An occurrence of a pattern: its span, its text and the texts of the groups it passed. -/
structure Match where
  start : Nat
  stop : Nat
  text : List Char
  groups : List (Nat × List Char)
  deriving DecidableEq, Repr

def Match.group? (m : Match) (index : Nat) : Option (List Char) :=
  m.groups.lookup index

namespace Pattern

def occurrence (cursor : Cursor) (stop : Progress) : Match :=
  ⟨cursor.pos, stop.cursor.pos, cursor.textTo stop.cursor, stop.groups⟩

def matchAt? (pattern : Pattern) (cursor : Cursor) : Option Match :=
  pattern.run ⟨cursor, []⟩ fun stop => some (occurrence cursor stop)

def matchWhole? (pattern : Pattern) (text : List Char) : Option Match :=
  pattern.run ⟨Cursor.start text, []⟩ fun stop =>
    if stop.cursor.rest.isEmpty then some (occurrence (Cursor.start text) stop) else none

/-- The occurrences in the rest of a text, of which the first `skip` characters belong to an
occurrence already found. -/
def findFrom (pattern : Pattern) : Nat → Nat → Option Char → List Char → List Match
  | _, _, _, [] => []
  | skip + 1, pos, _, c :: rest => findFrom pattern skip (pos + 1) c rest
  | 0, pos, before, c :: rest =>
    match pattern.matchAt? ⟨pos, before, c :: rest⟩ with
    | some found => found :: findFrom pattern (found.text.length - 1) (pos + 1) c rest
    | none => findFrom pattern 0 (pos + 1) c rest

/-- The leftmost occurrences that do not overlap, from left to right. -/
def findAll (pattern : Pattern) (text : List Char) : List Match :=
  findFrom pattern 0 0 none text

def firstFrom (pattern : Pattern) : Nat → Option Char → List Char → Option Match
  | _, _, [] => none
  | pos, before, c :: rest =>
    match pattern.matchAt? ⟨pos, before, c :: rest⟩ with
    | some found => some found
    | none => firstFrom pattern (pos + 1) c rest

def find? (pattern : Pattern) (text : List Char) : Option Match :=
  firstFrom pattern 0 none text

def occursIn (pattern : Pattern) (text : List Char) : Bool :=
  (pattern.find? text).isSome

end Pattern

end OverflowScan
