import OverflowScan.Document.Basic
import OverflowScan.Document.Yaml.Scalar

set_option autoImplicit false

namespace OverflowScan.Yaml

/-- A key of more characters is marked by a question mark. -/
def keyLimit : Nat := 122

def isSimpleKey (key : List Char) : Bool :=
  !key.isEmpty && !key.any isBreak && key.length ≤ keyLimit

def keyText (key : List Char) : List Char :=
  scalar ⟨0, false⟩ 0 key

mutual

/-- What follows an indicator that stands at the column `indent`. -/
def afterIndicator (indent : Nat) : Document → List Char
  | .null => " null".toList
  | .bool true => " true".toList
  | .bool false => " false".toList
  | .int value => ' ' :: (Text.decimal value).toList
  | .text value => ' ' :: scalar ⟨indent + 2, true⟩ (indent + 2) value.toList
  | .list [] => " []".toList
  | .list (item :: rest) =>
    ' ' :: List.intercalate (newLine (indent + 2))
      (itemTexts (indent + 2) (item :: rest))
  | .map [] => " \x7b\x7d".toList
  | .map (field :: rest) =>
    ' ' :: List.intercalate (newLine (indent + 2))
      (fieldTexts (indent + 2) (field :: rest))

/-- What follows the colon of a simple key: `indent` is the column of the key and `column` the one
after the colon. -/
def afterKey (indent column : Nat) : Document → List Char
  | .null => " null".toList
  | .bool true => " true".toList
  | .bool false => " false".toList
  | .int value => ' ' :: (Text.decimal value).toList
  | .text value => ' ' :: scalar ⟨indent + 2, true⟩ (column + 1) value.toList
  | .list [] => " []".toList
  | .list (item :: rest) =>
    newLine indent ++ List.intercalate (newLine indent) (itemTexts indent (item :: rest))
  | .map [] => " \x7b\x7d".toList
  | .map (field :: rest) =>
    newLine (indent + 2) ++
      List.intercalate (newLine (indent + 2)) (fieldTexts (indent + 2) (field :: rest))

def itemTexts (indent : Nat) : List Document → List (List Char)
  | [] => []
  | item :: rest => ('-' :: afterIndicator indent item) :: itemTexts indent rest

def fieldTexts (indent : Nat) : List (String × Document) → List (List Char)
  | [] => []
  | (key, value) :: rest =>
    (if isSimpleKey key.toList then
      keyText key.toList ++
        ':' :: afterKey indent (indent + (keyText key.toList).length + 1) value
    else
      '?' :: ' ' :: scalar ⟨indent + 2, true⟩ (indent + 2) key.toList ++ newLine indent ++
        ':' :: afterIndicator indent value) :: fieldTexts indent rest

end

/-- What follows a text that is the whole document: a plain one needs an end mark. -/
def documentEnd (text : List Char) : List Char :=
  if styleOf text = .plain then "\n...\n".toList else ['\n']

def render : Document → List Char
  | .null => "null\n...\n".toList
  | .bool true => "true\n...\n".toList
  | .bool false => "false\n...\n".toList
  | .int value => (Text.decimal value).toList ++ "\n...\n".toList
  | .text value => scalar ⟨2, true⟩ 0 value.toList ++ documentEnd value.toList
  | .list [] => "[]\n".toList
  | .list (item :: rest) =>
    List.intercalate (newLine 0) (itemTexts 0 (item :: rest)) ++ ['\n']
  | .map [] => "\x7b\x7d\n".toList
  | .map (field :: rest) =>
    List.intercalate (newLine 0) (fieldTexts 0 (field :: rest)) ++ ['\n']

end OverflowScan.Yaml
