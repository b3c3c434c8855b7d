set_option autoImplicit false

namespace OverflowScan

/-- A normalised path: its root, which is empty for a relative path, and its names. -/
structure Path where
  root : String
  names : List String
  deriving DecidableEq, Repr

namespace Path

def pieces : List Char → List (List Char)
  | [] => [[]]
  | c :: rest =>
    if c = '/' then [] :: pieces rest
    else
      match pieces rest with
      | [] => [[c]]
      | piece :: more => (c :: piece) :: more

/-- The root that a text of a path starts with. -/
def rootOf (text : List Char) : String :=
  match (text.takeWhile (· = '/')).length with
  | 0 => ""
  | 2 => "//"
  | _ => "/"

def ofString (text : String) : Path where
  root := rootOf text.toList
  names := ((pieces text.toList).filter fun piece => piece ≠ [] ∧ piece ≠ ['.']).map String.ofList

def text (path : Path) : String :=
  if path.root = "" ∧ path.names = [] then "."
  else path.root ++ String.intercalate "/" path.names

def parent (path : Path) : Path :=
  { path with names := path.names.dropLast }

end Path

end OverflowScan
