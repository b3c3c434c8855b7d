set_option autoImplicit false

namespace OverflowScan.Utf8

def replacement : Char := '\ufffd'

/-- Where the reader stands between two bytes. -/
inductive State where
  | start
  | inside (owed : Nat) (low high : UInt8) (bits : Nat)
  deriving DecidableEq, Repr

/-- The state after the first byte of a longer character; `none` for a byte that starts none. -/
def lead? (byte : UInt8) : Option State :=
  if 0xC2 ≤ byte ∧ byte ≤ 0xDF then some (.inside 1 0x80 0xBF (byte.toNat - 0xC0))
  else if byte = 0xE0 then some (.inside 2 0xA0 0xBF (byte.toNat - 0xE0))
  else if byte = 0xED then some (.inside 2 0x80 0x9F (byte.toNat - 0xE0))
  else if 0xE1 ≤ byte ∧ byte ≤ 0xEF then some (.inside 2 0x80 0xBF (byte.toNat - 0xE0))
  else if byte = 0xF0 then some (.inside 3 0x90 0xBF (byte.toNat - 0xF0))
  else if 0xF1 ≤ byte ∧ byte ≤ 0xF3 then some (.inside 3 0x80 0xBF (byte.toNat - 0xF0))
  else if byte = 0xF4 then some (.inside 3 0x80 0x8F (byte.toNat - 0xF0))
  else none

def stepStart (byte : UInt8) : List Char × State :=
  if byte < 0x80 then ([Char.ofNat byte.toNat], .start)
  else
    match lead? byte with
    | some state => ([], state)
    | none => ([replacement], .start)

/-- One byte: the text it completes and the state after it. A byte that cannot continue the
character under way ends it as ill-formed and is then read as a first byte. -/
def step : State → UInt8 → List Char × State
  | .start, byte => stepStart byte
  | .inside owed low high bits, byte =>
    if low ≤ byte ∧ byte ≤ high then
      let bits := bits * 64 + (byte.toNat - 0x80)
      if owed ≤ 1 then ([Char.ofNat bits], .start)
      else ([], .inside (owed - 1) 0x80 0xBF bits)
    else
      let next := stepStart byte
      (replacement :: next.1, next.2)

def finish : State → List Char
  | .start => []
  | .inside _ _ _ _ => [replacement]

def decodeFrom : State → List UInt8 → List Char
  | state, [] => finish state
  | state, byte :: rest =>
    let next := step state byte
    next.1 ++ decodeFrom next.2 rest

def decode (bytes : List UInt8) : List Char :=
  decodeFrom .start bytes

def encode (text : List Char) : List UInt8 :=
  text.flatMap String.utf8EncodeChar

end OverflowScan.Utf8
