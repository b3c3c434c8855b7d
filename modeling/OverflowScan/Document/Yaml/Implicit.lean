set_option autoImplicit false

namespace OverflowScan.Yaml

/-- The words that are not text by themselves. -/
def reservedWords : List String :=
  ["", "~", "null", "Null", "NULL", "yes", "Yes", "YES", "no", "No", "NO", "true", "True", "TRUE",
   "false", "False", "FALSE", "on", "On", "ON", "off", "Off", "OFF", "<<", "=", "!", "&", "*",
   ".nan", ".NaN", ".NAN"]

def isLooseDigit (c : Char) : Bool := c.isDigit || c == '_'

def isLooseBinary (c : Char) : Bool := c == '0' || c == '1' || c == '_'

def isLooseOctal (c : Char) : Bool := ('0' ≤ c && c ≤ '7') || c == '_'

def isLooseHex (c : Char) : Bool :=
  isLooseDigit c || ('a' ≤ c && c ≤ 'f') || ('A' ≤ c && c ≤ 'F')

def dropSign : List Char → List Char
  | '+' :: rest => rest
  | '-' :: rest => rest
  | text => text

def isRun (cls : Char → Bool) (text : List Char) : Bool :=
  !text.isEmpty && text.all cls

/-- A sixtieth: one digit, or two of which the first is at most 5. -/
def isSixtieth : List Char → Bool
  | [unit] => unit.isDigit
  | [ten, unit] => '0' ≤ ten && ten ≤ '5' && unit.isDigit
  | _ => false

def colonPieces : List Char → List (List Char)
  | [] => [[]]
  | c :: rest =>
    if c = ':' then [] :: colonPieces rest
    else
      match colonPieces rest with
      | [] => [[c]]
      | piece :: more => (c :: piece) :: more

/-- A number in base sixty: a first piece of the given kind, then at least one sixtieth. -/
def isSexagesimal (first : List Char → Bool) (text : List Char) : Bool :=
  match colonPieces text with
  | head :: second :: more => first head && (second :: more).all isSixtieth
  | _ => false

def isPositiveDecimal : List Char → Bool
  | c :: rest => '1' ≤ c && c ≤ '9' && rest.all isLooseDigit
  | [] => false

def isDecimal : List Char → Bool
  | c :: rest => c.isDigit && rest.all isLooseDigit
  | [] => false

def isUnsignedInteger (text : List Char) : Bool :=
  match text with
  | ['0'] => true
  | '0' :: 'b' :: digits => isRun isLooseBinary digits
  | '0' :: 'x' :: digits => isRun isLooseHex digits
  | '0' :: digits => isRun isLooseOctal digits
  | _ => isPositiveDecimal text || isSexagesimal isPositiveDecimal text

def isExponentOrEmpty : List Char → Bool
  | [] => true
  | mark :: sign :: digits =>
    (mark == 'e' || mark == 'E') && (sign == '+' || sign == '-') && isRun Char.isDigit digits
  | _ => false

def splitPoint? (text : List Char) : Option (List Char × List Char) :=
  match text.dropWhile (· ≠ '.') with
  | _ :: rest => some (text.takeWhile (· ≠ '.'), rest)
  | [] => none

/-- A fraction without its sign, but not one that starts with a point. -/
def isUnsignedFraction (text : List Char) : Bool :=
  match splitPoint? text with
  | some (whole, rest) =>
    (isDecimal whole && isExponentOrEmpty (rest.dropWhile isLooseDigit)) ||
      (isSexagesimal isDecimal whole && rest.all isLooseDigit)
  | none => false

/-- A fraction that starts with a point and has no sign. -/
def isPointFraction : List Char → Bool
  | '.' :: c :: rest => c.isDigit && isExponentOrEmpty (rest.dropWhile isLooseDigit)
  | _ => false

def isInfinity (text : List Char) : Bool :=
  text = ".inf".toList || text = ".Inf".toList || text = ".INF".toList

/-- The rest of a text after a run of digits, if their number lies between two bounds. -/
def afterDigits? (least most : Nat) (text : List Char) : Option (List Char) :=
  let count := (text.takeWhile Char.isDigit).length
  if least ≤ count ∧ count ≤ most then some (text.dropWhile Char.isDigit) else none

def afterChar? (c : Char) : List Char → Option (List Char)
  | d :: rest => if c = d then some rest else none
  | [] => none

def isDate (text : List Char) : Bool :=
  (do
    let rest ← afterDigits? 4 4 text
    let rest ← afterChar? '-' rest
    let rest ← afterDigits? 2 2 rest
    let rest ← afterChar? '-' rest
    afterDigits? 2 2 rest) = some []

def isSpacing (c : Char) : Bool := c == ' ' || c == '\t'

def afterDateMark? : List Char → Option (List Char)
  | c :: rest =>
    if c = 'T' ∨ c = 't' then some rest
    else if isSpacing c then some (rest.dropWhile isSpacing)
    else none
  | [] => none

def afterSecondFraction : List Char → List Char
  | '.' :: rest => rest.dropWhile Char.isDigit
  | text => text

/-- A time zone: `Z`, or hours with a sign and perhaps minutes. -/
def isZone : List Char → Bool
  | ['Z'] => true
  | sign :: rest =>
    (sign == '+' || sign == '-') &&
      match afterDigits? 1 2 rest with
      | some [] => true
      | some more => ((afterChar? ':' more).bind (afterDigits? 2 2)) = some []
      | none => false
  | [] => false

/-- What may follow the seconds of a time: nothing, or a zone after spacing. -/
def isZoneOrEmpty (text : List Char) : Bool :=
  text.isEmpty || isZone (text.dropWhile isSpacing)

def isDateTime (text : List Char) : Bool :=
  match (do
    let rest ← afterDigits? 4 4 text
    let rest ← afterChar? '-' rest
    let rest ← afterDigits? 1 2 rest
    let rest ← afterChar? '-' rest
    let rest ← afterDigits? 1 2 rest
    let rest ← afterDateMark? rest
    let rest ← afterDigits? 1 2 rest
    let rest ← afterChar? ':' rest
    let rest ← afterDigits? 2 2 rest
    let rest ← afterChar? ':' rest
    afterDigits? 2 2 rest) with
  | some rest => isZoneOrEmpty (afterSecondFraction rest)
  | none => false

/-- Whether a text without quotes would be taken for something other than text. -/
def isImplicit (text : List Char) : Bool :=
  reservedWords.any (fun word => word.toList = text) ||
    isUnsignedInteger (dropSign text) || isUnsignedFraction (dropSign text) ||
    isPointFraction text || isInfinity (dropSign text) || isDate text || isDateTime text

end OverflowScan.Yaml
