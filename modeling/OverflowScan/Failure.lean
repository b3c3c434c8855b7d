import OverflowScan.Files.Path
import OverflowScan.Text.Decimal
import OverflowScan.Text.Quoted

set_option autoImplicit false

namespace OverflowScan

/-- Why the operating system refuses to work on a path. -/
inductive Refusal where
  | noEntry
  | alreadyExists
  | notDirectory
  | isDirectory
  | nameTooLong
  | other (errorNumber : Nat) (errorText : String)
  deriving DecidableEq, Repr

namespace Refusal

def number : Refusal → Nat
  | .noEntry => 2
  | .alreadyExists => 17
  | .notDirectory => 20
  | .isDirectory => 21
  | .nameTooLong => 36
  | .other errorNumber _ => errorNumber

def text : Refusal → String
  | .noEntry => "No such file or directory"
  | .alreadyExists => "File exists"
  | .notDirectory => "Not a directory"
  | .isDirectory => "Is a directory"
  | .nameTooLong => "File name too long"
  | .other _ errorText => errorText

end Refusal

inductive Failure where
  /-- A path with a null character never reaches the operating system. -/
  | nullByte
  | unopenable (cause : Refusal) (path : Path)
  | refused (cause : Refusal) (path : Path)
  | badSeverity (word : String)
  deriving DecidableEq, Repr

def Failure.message : Failure → String
  | .nullByte => "embedded null byte"
  | .unopenable _ path => "Could not open file " ++ path.text
  | .refused cause path =>
    "[Errno " ++ Text.decimal cause.number ++ "] " ++ cause.text ++ ": " ++ Text.quoted path.text
  | .badSeverity word => Text.quoted word ++ " is not a valid Severity"

end OverflowScan
