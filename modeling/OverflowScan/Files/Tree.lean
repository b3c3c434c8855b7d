import OverflowScan.Failure

set_option autoImplicit false

namespace OverflowScan

/-- The names that lead from the top of the tree to an entry. -/
abbrev Location := List String

inductive Entry where
  | file (content : List UInt8)
  | folder
  deriving DecidableEq, Repr

/-- A tree: the location of its working directory and what it holds. The working directory and
the folders above it always exist and are not listed. -/
structure FileTree where
  home : Location
  entries : List (Location × Entry)
  deriving DecidableEq, Repr

namespace FileTree

def nameLimit : Nat := 255

/-- A path of this many bytes, or more, is refused. -/
def pathLimit : Nat := 4096

def empty (home : Location) : FileTree := ⟨home, []⟩

def entryAt? (tree : FileTree) (location : Location) : Option Entry :=
  if location.isPrefixOf tree.home then some .folder else tree.entries.lookup location

def put (tree : FileTree) (location : Location) (entry : Entry) : FileTree :=
  { tree with entries := (location, entry) :: tree.entries.filter (·.1 ≠ location) }

def erase (tree : FileTree) (location : Location) : FileTree :=
  { tree with entries := tree.entries.filter (·.1 ≠ location) }

/-- The location that names lead to. All names but the last must lead through folders; the location
itself need not hold an entry. -/
def descend (tree : FileTree) : Location → List String → Except Refusal Location
  | location, [] => .ok location
  | location, name :: rest =>
    match tree.entryAt? location with
    | some .folder =>
      if name = ".." then tree.descend location.dropLast rest
      else if nameLimit < name.utf8ByteSize then .error .nameTooLong
      else tree.descend (location ++ [name]) rest
    | some (.file _) => .error .notDirectory
    | none => .error .noEntry

def locate (tree : FileTree) (path : Path) : Except Refusal Location :=
  if pathLimit ≤ path.text.utf8ByteSize then .error .nameTooLong
  else tree.descend (if path.root = "" then tree.home else []) path.names

def hasNull (path : Path) : Bool :=
  path.names.any fun name => name.toList.contains '\x00'

def lookup (tree : FileTree) (path : Path) : Except Refusal Entry :=
  match tree.locate path with
  | .error cause => .error cause
  | .ok location =>
    match tree.entryAt? location with
    | some entry => .ok entry
    | none => .error .noEntry

def read (tree : FileTree) (path : Path) : Except Failure (List UInt8) :=
  if hasNull path then .error .nullByte
  else
    match tree.lookup path with
    | .error cause => .error (.unopenable cause path)
    | .ok .folder => .error (.unopenable .isDirectory path)
    | .ok (.file content) => .ok content

def write (tree : FileTree) (path : Path) (content : List UInt8) : Except Failure FileTree :=
  if hasNull path then .error .nullByte
  else
    match tree.locate path with
    | .error cause => .error (.refused cause path)
    | .ok location =>
      match tree.entryAt? location with
      | some .folder => .error (.refused .isDirectory path)
      | _ => .ok (tree.put location (.file content))

def remove (tree : FileTree) (path : Path) : Except Failure FileTree :=
  if hasNull path then .error .nullByte
  else
    match tree.locate path with
    | .error cause => .error (.refused cause path)
    | .ok location =>
      match tree.entryAt? location with
      | some (.file _) => .ok (tree.erase location)
      | some .folder => .error (.refused .isDirectory path)
      | none => .error (.refused .noEntry path)

def makeFolder (tree : FileTree) (path : Path) : Except Failure FileTree :=
  if hasNull path then .error .nullByte
  else
    match tree.locate path with
    | .error cause => .error (.refused cause path)
    | .ok location =>
      match tree.entryAt? location with
      | some _ => .error (.refused .alreadyExists path)
      | none => .ok (tree.put location .folder)

def isFolder (tree : FileTree) (path : Path) : Except Failure Bool :=
  match tree.lookup path with
  | .ok .folder => .ok true
  | .ok (.file _) => .ok false
  | .error .noEntry => .ok false
  | .error .notDirectory => .ok false
  | .error cause => .error (.refused cause path)

/-- The failure that remains after a folder could not be made: none if there is a folder already. -/
def makeFolderFault (tree : FileTree) (path : Path) (failure : Failure) : Except Failure Unit :=
  match failure with
  | .refused .noEntry _ => .error failure
  | .refused _ _ =>
    match tree.isFolder path with
    | .ok true => .ok ()
    | .ok false => .error failure
    | .error other => .error other
  | _ => .error failure

/-- Sees to it that a path, whose names are given last first, is a folder, and makes the folders
above it that are missing. Folders made before a failure stay. -/
def ensureFolderRev (tree : FileTree) (root : String) :
    List String → FileTree × Except Failure Unit
  | [] =>
    match tree.makeFolder ⟨root, []⟩ with
    | .ok made => (made, .ok ())
    | .error failure => (tree, tree.makeFolderFault ⟨root, []⟩ failure)
  | name :: above =>
    let path : Path := ⟨root, (name :: above).reverse⟩
    match tree.makeFolder path with
    | .ok made => (made, .ok ())
    | .error (.refused .noEntry _) =>
      match tree.ensureFolderRev root above with
      | (grown, .error failure) => (grown, .error failure)
      | (grown, .ok ()) =>
        match grown.makeFolder path with
        | .ok made => (made, .ok ())
        | .error failure => (grown, grown.makeFolderFault path failure)
    | .error failure => (tree, tree.makeFolderFault path failure)

def ensureFolder (tree : FileTree) (path : Path) : FileTree × Except Failure Unit :=
  tree.ensureFolderRev path.root path.names.reverse

def store (tree : FileTree) (path : Path) (content : List UInt8) :
    FileTree × Except Failure Unit :=
  match tree.ensureFolder path.parent with
  | (grown, .error failure) => (grown, .error failure)
  | (grown, .ok ()) =>
    match grown.write path content with
    | .ok written => (written, .ok ())
    | .error failure => (grown, .error failure)

end FileTree

end OverflowScan
