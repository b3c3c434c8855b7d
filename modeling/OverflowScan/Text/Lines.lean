set_option autoImplicit false

namespace OverflowScan.Text

/-- The physical lines, without their line feeds. A final line feed opens no further line. -/
def lines : List Char → List (List Char)
  | [] => []
  | c :: rest =>
    if c = '\n' then [] :: lines rest
    else
      match lines rest with
      | [] => [[c]]
      | line :: more => (c :: line) :: more

/-- The position an offset names: a negative one counts from the end and stops at the start. -/
def position (text : List Char) (offset : Int) : Nat :=
  if 0 ≤ offset then offset.toNat else (text.length + offset).toNat

def lineNumberAt (text : List Char) (offset : Int) : Nat :=
  (text.take (position text offset)).count '\n' + 1

def bodyAt? (text : List Char) (offset : Int) : Option (List Char) :=
  let rest := text.drop (position text offset)
  if '\x7d' ∈ rest then some (rest.takeWhile (· ≠ '\x7d')) else none

end OverflowScan.Text
