import OverflowScan.Document.Json
import OverflowScan.Document.Yaml
import OverflowScan.Files.Tree
import OverflowScan.Text.Utf8

set_option autoImplicit false

namespace OverflowScan

inductive Format where
  | json
  | yaml
  deriving DecidableEq, Repr

/-- The format of a name: `yaml` by its exact name, and JSON by any other. -/
def Format.ofName (name : String) : Format :=
  if name = "yaml" then .yaml else .json

def Document.serialise (document : Document) : Format → List Char
  | .json => Json.render 0 document
  | .yaml => Yaml.render document

/-- Writes a document to a path and makes the folders above it that are missing. -/
def FileTree.storeDocument (tree : FileTree) (path : String) (document : Document)
    (format : Format) : FileTree × Except Failure Unit :=
  tree.store (Path.ofString path) (Utf8.encode (document.serialise format))

end OverflowScan
