import OverflowScan.Document.Basic
import OverflowScan.Text.Quoted

set_option autoImplicit false

namespace OverflowScan.Json

/-- A UTF-16 unit as an escape. -/
def unitEscape (unit : Nat) : List Char :=
  '\\' :: 'u' :: Text.hexPadded 4 unit

def escapedChar (c : Char) : List Char :=
  if c = '"' then ['\\', '"']
  else if c = '\\' then ['\\', '\\']
  else if c = '\n' then ['\\', 'n']
  else if c = '\r' then ['\\', 'r']
  else if c = '\t' then ['\\', 't']
  else if c = '\x0c' then ['\\', 'f']
  else if c = '\x08' then ['\\', 'b']
  else if ' ' ≤ c ∧ c ≤ '~' then [c]
  else if c.toNat < 0x10000 then unitEscape c.toNat
  else
    let offset := c.toNat - 0x10000
    unitEscape (0xD800 + offset / 0x400) ++ unitEscape (0xDC00 + offset % 0x400)

def string (text : String) : List Char :=
  '"' :: text.toList.flatMap escapedChar ++ ['"']

def newLine (depth : Nat) : List Char :=
  '\n' :: List.replicate (2 * depth) ' '

/-- Members between brackets, one a line at the given depth. -/
def bracketed (opening closing : Char) (depth : Nat) (members : List (List Char)) : List Char :=
  if members.isEmpty then [opening, closing]
  else
    opening :: newLine (depth + 1) ++ List.intercalate (',' :: newLine (depth + 1)) members ++
      newLine depth ++ [closing]

mutual

/-- A document whose first line starts at the given depth. -/
def render (depth : Nat) : Document → List Char
  | .null => "null".toList
  | .bool true => "true".toList
  | .bool false => "false".toList
  | .int value => (Text.decimal value).toList
  | .text value => string value
  | .list items => bracketed '[' ']' depth (renderItems (depth + 1) items)
  | .map fields => bracketed '\x7b' '\x7d' depth (renderFields (depth + 1) fields)

def renderItems (depth : Nat) : List Document → List (List Char)
  | [] => []
  | item :: rest => render depth item :: renderItems depth rest

def renderFields (depth : Nat) : List (String × Document) → List (List Char)
  | [] => []
  | (key, value) :: rest =>
    (string key ++ ':' :: ' ' :: render depth value) :: renderFields depth rest

end

end OverflowScan.Json
