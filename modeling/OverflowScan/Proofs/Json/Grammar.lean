import OverflowScan.Document.Basic
import OverflowScan.Proofs.Text.Hexadecimal

set_option autoImplicit false

/- The grammar of JSON for documents. A document is a sequence of tokens; a text is written for a
sequence of tokens when it spells them one after the other, with white space between them as it
likes. A character of a text has many spellings: itself, a letter after a backslash, its UTF-16
unit in four hexadecimal digits, or two units of a surrogate pair. Documents have integers only, so
a number with a fraction or an exponent is a spelling of none. -/
namespace OverflowScan.Json

/-- The smallest parts of a text that mean something. -/
inductive Token where
  | openList
  | closeList
  | openMap
  | closeMap
  | colon
  | comma
  | null
  | bool (value : Bool)
  | int (value : Int)
  | text (value : String)
  deriving DecidableEq, Repr

mutual

def tokens : Document → List Token
  | .null => [.null]
  | .bool value => [.bool value]
  | .int value => [.int value]
  | .text value => [.text value]
  | .list items => .openList :: [Token.comma].intercalate (itemTokens items) ++ [.closeList]
  | .map fields => .openMap :: [Token.comma].intercalate (fieldTokens fields) ++ [.closeMap]

def itemTokens : List Document → List (List Token)
  | [] => []
  | item :: rest => tokens item :: itemTokens rest

def fieldTokens : List (String × Document) → List (List Token)
  | [] => []
  | (key, value) :: rest => (.text key :: .colon :: tokens value) :: fieldTokens rest

end

theorem itemTokens_eq_map (items : List Document) : itemTokens items = items.map tokens := by
  induction items with
  | nil => rw [itemTokens, List.map_nil]
  | cons item rest ih => rw [itemTokens, List.map_cons, ih]

theorem fieldTokens_eq_map (fields : List (String × Document)) :
    fieldTokens fields = fields.map fun field => .text field.1 :: .colon :: tokens field.2 := by
  induction fields with
  | nil => rw [fieldTokens, List.map_nil]
  | cons field rest ih => rw [fieldTokens, List.map_cons, ih]

def isSpace (c : Char) : Bool :=
  c = ' ' || c = '\t' || c = '\n' || c = '\r'

def fixedWords : List (List Char × Token) :=
  [(['['], .openList), ([']'], .closeList), (['\x7b'], .openMap), (['\x7d'], .closeMap),
   ([':'], .colon), ([','], .comma), (['n', 'u', 'l', 'l'], .null),
   (['t', 'r', 'u', 'e'], .bool true), (['f', 'a', 'l', 's', 'e'], .bool false)]

def shortEscapes : List (Char × Char) :=
  [('"', '"'), ('\\', '\\'), ('/', '/'), ('b', '\x08'), ('f', '\x0c'), ('n', '\n'), ('r', '\r'),
   ('t', '\t')]

/-- Four digits spell a UTF-16 unit. -/
def SpellsUnit (unit : Nat) (digits : List Char) : Prop :=
  digits.length = 4 ∧ Text.hexNumber? digits = some unit

def IsHigh (unit : Nat) : Prop := 0xD800 ≤ unit ∧ unit < 0xDC00

def IsLow (unit : Nat) : Prop := 0xDC00 ≤ unit ∧ unit < 0xE000

instance (unit : Nat) : Decidable (IsHigh unit) := inferInstanceAs (Decidable (_ ∧ _))

instance (unit : Nat) : Decidable (IsLow unit) := inferInstanceAs (Decidable (_ ∧ _))

def joined (high low : Nat) : Nat :=
  0x10000 + (high - 0xD800) * 0x400 + (low - 0xDC00)

theorem toNat_char (c : Char) : c.toNat < 0xD800 ∨ 0xE000 ≤ c.toNat ∧ c.toNat < 0x110000 := by
  have valid := c.valid
  simp only [UInt32.isValidChar, Nat.isValidChar] at valid
  unfold Char.toNat
  omega

def IsPlain (c : Char) : Prop := ' ' ≤ c ∧ c ≠ '"' ∧ c ≠ '\\'

instance (c : Char) : Decidable (IsPlain c) := inferInstanceAs (Decidable (_ ∧ _ ∧ _))

/-- The spellings of a character between quotes. -/
inductive SpellsChar : Char → List Char → Prop where
  | plain {c : Char} (itself : IsPlain c) : SpellsChar c [c]
  | short {letter c : Char} (known : (letter, c) ∈ shortEscapes) : SpellsChar c ['\\', letter]
  | unit {c : Char} {digits : List Char} (spelled : SpellsUnit c.toNat digits) :
      SpellsChar c ('\\' :: 'u' :: digits)
  | pair {c : Char} {high low : Nat} {first second : List Char}
      (isHigh : IsHigh high) (isLow : IsLow low) (point : c.toNat = joined high low)
      (spelledHigh : SpellsUnit high first) (spelledLow : SpellsUnit low second) :
      SpellsChar c ('\\' :: 'u' :: first ++ '\\' :: 'u' :: second)

inductive SpellsText : List Char → List Char → Prop where
  | nil : SpellsText [] []
  | cons {c : Char} {text word spelling : List Char} (first : SpellsChar c word)
      (rest : SpellsText text spelling) : SpellsText (c :: text) (word ++ spelling)

/-- Digits are a number: at least one, and none but a lone zero starts with a zero. -/
def IsNumeral (digits : List Char) : Prop :=
  digits ≠ [] ∧ (∀ c ∈ digits, c.isDigit) ∧ (digits.head? = some '0' → digits = ['0'])

instance (digits : List Char) : Decidable (IsNumeral digits) :=
  inferInstanceAs (Decidable (_ ∧ _ ∧ _))

def numeralValue (digits : List Char) : Nat :=
  Nat.ofDigitChars 10 digits 0

/-- The spellings of a token. -/
inductive SpellsToken : Token → List Char → Prop where
  | fixed {word : List Char} {token : Token} (known : (word, token) ∈ fixedWords) :
      SpellsToken token word
  | text {value : String} {spelling : List Char} (spelled : SpellsText value.toList spelling) :
      SpellsToken (.text value) ('"' :: spelling ++ ['"'])
  | natural {digits : List Char} (numeral : IsNumeral digits) :
      SpellsToken (.int (numeralValue digits)) digits
  | negative {digits : List Char} (numeral : IsNumeral digits) :
      SpellsToken (.int (-(numeralValue digits : Int))) ('-' :: digits)

def NoDigit (text : List Char) : Prop :=
  ∀ c ∈ text.head?, c.isDigit = false

/-- A token ends where the text goes on: a number takes all the digits there are. -/
def Ends : Token → List Char → Prop
  | .int _, rest => NoDigit rest
  | _, _ => True

/-- The text spells the tokens, with white space in front of each of them and at the end. -/
inductive Written : List Token → List Char → Prop where
  | nil {blanks : List Char} (blank : ∀ c ∈ blanks, isSpace c) : Written [] blanks
  | cons {token : Token} {following : List Token} {blanks word rest : List Char}
      (blank : ∀ c ∈ blanks, isSpace c) (spelled : SpellsToken token word)
      (ends : Ends token rest) (written : Written following rest) :
      Written (token :: following) (blanks ++ (word ++ rest))

/-- The text is a spelling of the document. -/
def Denotes (text : List Char) (document : Document) : Prop :=
  Written (tokens document) text

end OverflowScan.Json
