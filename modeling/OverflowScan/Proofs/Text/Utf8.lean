import Mathlib.Algebra.Group.Nat.Defs
import OverflowScan.Proofs.Text.Ascii

set_option autoImplicit false

namespace OverflowScan.Utf8

section

variable {byte : UInt8}

theorem lead?_two (lower : 0xC2 ≤ byte.toNat) (upper : byte.toNat ≤ 0xDF) :
    lead? byte = some (.inside 1 0x80 0xBF (byte.toNat - 0xC0)) := by
  unfold lead?
  exact if_pos ⟨UInt8.le_iff_toNat_le.mpr lower, UInt8.le_iff_toNat_le.mpr upper⟩

/-- The second of three bytes is restricted after the first and the fourteenth of the leads: the
character would have a shorter form, or be a surrogate. -/
theorem lead?_three (lower : 0xE0 ≤ byte.toNat) (upper : byte.toNat ≤ 0xEF) :
    lead? byte = some (.inside 2 (if byte.toNat = 0xE0 then 0xA0 else 0x80)
      (if byte.toNat = 0xED then 0x9F else 0xBF) (byte.toNat - 0xE0)) := by
  unfold lead?
  simp only [UInt8.le_iff_toNat_le, ← UInt8.toNat_inj, UInt8.reduceToNat]
  grind

/-- The second of four bytes is restricted after the first and the last of the leads: the character
would have a shorter form, or lie beyond the last code point. -/
theorem lead?_four (lower : 0xF0 ≤ byte.toNat) (upper : byte.toNat ≤ 0xF4) :
    lead? byte = some (.inside 3 (if byte.toNat = 0xF0 then 0x90 else 0x80)
      (if byte.toNat = 0xF4 then 0x8F else 0xBF) (byte.toNat - 0xF0)) := by
  unfold lead?
  simp only [UInt8.le_iff_toNat_le, ← UInt8.toNat_inj, UInt8.reduceToNat]
  grind

theorem lead?_eq_none (outside : byte.toNat < 0xC2 ∨ 0xF4 < byte.toNat) :
    lead? byte = none := by
  unfold lead?
  simp only [UInt8.le_iff_toNat_le, ← UInt8.toNat_inj, UInt8.reduceToNat]
  grind

end

def Continues (byte : UInt8) : Prop :=
  0x80 ≤ byte ∧ byte ≤ 0xBF

/-- The first byte, if there is one, does not continue a character. -/
def StartsFresh (bytes : List UInt8) : Prop :=
  ∀ byte ∈ bytes.head?, ¬ Continues byte

/-- What holds of the reader after any bytes: the byte that it waits for inside a character
continues one, and the character that it will complete lies beyond the ASCII range. -/
def State.Sound : State → Prop
  | .start => True
  | .inside owed low high bits =>
    0x80 ≤ low ∧ high ≤ 0xBF ∧
      0x80 ≤ (bits * 64 + (low.toNat - 0x80)) * 64 ^ (owed - 1)

theorem State.sound_start : State.Sound .start := trivial

theorem sound_of_lead? {byte : UInt8} {state : State} (leads : lead? byte = some state) :
    state.Sound := by
  by_cases none : byte.toNat < 0xC2 ∨ 0xF4 < byte.toNat
  · rw [lead?_eq_none none] at leads
    cases leads
  by_cases two : byte.toNat ≤ 0xDF
  · rw [lead?_two (by omega) two] at leads
    cases leads
    refine ⟨by decide, by decide, ?_⟩
    simp only [UInt8.reduceToNat]
    omega
  by_cases three : byte.toNat ≤ 0xEF
  · rw [lead?_three (by omega) three] at leads
    cases leads
    refine ⟨?_, ?_, ?_⟩
    · split <;> decide
    · split <;> decide
    · split <;> simp only [UInt8.reduceToNat] <;> omega
  · rw [lead?_four (by omega) (by omega)] at leads
    cases leads
    refine ⟨?_, ?_, ?_⟩
    · split <;> decide
    · split <;> decide
    · split <;> simp only [UInt8.reduceToNat] <;> omega

theorem sound_stepStart (byte : UInt8) : (stepStart byte).2.Sound := by
  unfold stepStart
  split
  · trivial
  · split
    · rename_i leads
      exact sound_of_lead? leads
    · trivial

theorem State.Sound.grown {owed bits : Nat} {low high byte : UInt8}
    (sound : (State.inside owed low high bits).Sound) (within : low ≤ byte) :
    0x80 ≤ (bits * 64 + (byte.toNat - 0x80)) * 64 ^ (owed - 1) := by
  have above := UInt8.le_iff_toNat_le.mp within
  refine Nat.le_trans sound.2.2 (Nat.mul_le_mul_right _ ?_)
  omega

theorem sound_step {state : State} (sound : state.Sound) (byte : UInt8) :
    (step state byte).2.Sound := by
  cases state with
  | start => exact sound_stepStart byte
  | inside owed low high bits =>
      by_cases within : low ≤ byte ∧ byte ≤ high
      · rw [step, if_pos within]
        extract_lets grown
        by_cases last : owed ≤ 1
        · rw [if_pos last]
          trivial
        · rw [if_neg last]
          refine ⟨by decide, by decide, ?_⟩
          have large := sound.grown within.1
          have shorter : owed - 1 = (owed - 1 - 1) + 1 := by omega
          rw [shorter, Nat.pow_succ', ← Nat.mul_assoc] at large
          simpa only [UInt8.reduceToNat, Nat.sub_self, Nat.add_zero] using large
      · rw [step, if_neg within]
        exact sound_stepStart byte

/-- A byte that continues no character ends the one under way and is read as a first byte. -/
theorem step_of_fresh {state : State} (sound : state.Sound) {byte : UInt8}
    (fresh : ¬ Continues byte) :
    step state byte = (finish state ++ (stepStart byte).1, (stepStart byte).2) := by
  cases state with
  | start => rfl
  | inside owed low high bits =>
      have outside : ¬ (low ≤ byte ∧ byte ≤ high) := by
        rintro ⟨lower, upper⟩
        exact fresh ⟨UInt8.le_trans sound.1 lower, UInt8.le_trans upper sound.2.1⟩
      rw [step, if_neg outside]
      rfl

/-- Bytes that start afresh are read as if nothing stood before them. -/
theorem decodeFrom_append {state : State} (sound : state.Sound) (front : List UInt8)
    {rest : List UInt8} (fresh : StartsFresh rest) :
    decodeFrom state (front ++ rest) = decodeFrom state front ++ decode rest := by
  induction front generalizing state with
  | nil =>
      cases rest with
      | nil => exact (List.append_nil _).symm
      | cons byte rest =>
          have first := step_of_fresh sound (fresh byte rfl)
          simp only [List.nil_append, decode, decodeFrom, first, List.append_assoc]
          rfl
  | cons byte front ih =>
      simp only [List.cons_append, decodeFrom, ih (sound_step sound byte), List.append_assoc]

theorem decode_append (front : List UInt8) {rest : List UInt8} (fresh : StartsFresh rest) :
    decode (front ++ rest) = decode front ++ decode rest :=
  decodeFrom_append State.sound_start front fresh

theorem lead?_ne_start (byte : UInt8) : lead? byte ≠ some .start := by
  unfold lead?
  grind

theorem stepStart_ne_nil {byte : UInt8} (ended : (stepStart byte).2 = .start) :
    (stepStart byte).1 ≠ [] := by
  revert ended
  unfold stepStart
  split
  · intro _
    exact List.cons_ne_nil _ _
  · split
    · rename_i leads
      rintro rfl
      exact absurd leads (lead?_ne_start byte)
    · intro _
      exact List.cons_ne_nil _ _

theorem step_ne_nil {state : State} {byte : UInt8} (ended : (step state byte).2 = .start) :
    (step state byte).1 ≠ [] := by
  cases state with
  | start => exact stepStart_ne_nil ended
  | inside owed low high bits =>
      unfold step at ended ⊢
      grind

theorem decodeFrom_eq_nil {state : State} {bytes : List UInt8}
    (empty : decodeFrom state bytes = []) : state = .start ∧ bytes = [] := by
  induction bytes generalizing state with
  | nil =>
      cases state with
      | start => exact ⟨rfl, rfl⟩
      | inside owed low high bits => cases empty
  | cons byte rest ih =>
      obtain ⟨here, later⟩ := List.append_eq_nil_iff.mp empty
      exact absurd here (step_ne_nil (ih later).1)

theorem decode_ne_nil {bytes : List UInt8} (nonempty : bytes ≠ []) : decode bytes ≠ [] :=
  fun empty => nonempty (decodeFrom_eq_nil empty).2

section

variable {byte : UInt8} {state : State}

theorem decodeFrom_lead (large : 0x80 ≤ byte.toNat) (leads : lead? byte = some state)
    (rest : List UInt8) : decodeFrom .start (byte :: rest) = decodeFrom state rest := by
  have high : ¬ byte < 0x80 := by
    rw [UInt8.lt_iff_toNat_lt]
    exact Nat.not_lt.mpr large
  simp only [decodeFrom, step, stepStart, if_neg high, leads, List.nil_append]

variable {owed bits : Nat} {low high : UInt8}

theorem decodeFrom_last (within : low ≤ byte ∧ byte ≤ high) (rest : List UInt8) :
    decodeFrom (.inside 1 low high bits) (byte :: rest) =
      Char.ofNat (bits * 64 + (byte.toNat - 0x80)) :: decodeFrom .start rest := by
  simp only [decodeFrom, step, if_pos within, Nat.le_refl, ↓reduceIte, List.singleton_append]

theorem decodeFrom_more (within : low ≤ byte ∧ byte ≤ high) (rest : List UInt8) :
    decodeFrom (.inside (owed + 2) low high bits) (byte :: rest) =
      decodeFrom (.inside (owed + 1) 0x80 0xBF (bits * 64 + (byte.toNat - 0x80))) rest := by
  have owing : ¬ owed + 2 ≤ 1 := by omega
  simp only [decodeFrom, step, if_pos within, if_neg owing, List.nil_append]
  rfl

end

theorem toNat_ofNat_of_small {n : Nat} (small : n < 256) : (UInt8.ofNat n).toNat = n := by
  rw [UInt8.toNat_ofNat']
  exact Nat.mod_eq_of_lt small

theorem continues_ofNat (bits : Nat) : Continues (UInt8.ofNat (bits % 64 + 128)) := by
  rw [Continues, UInt8.le_iff_toNat_le, UInt8.le_iff_toNat_le, toNat_ofNat_of_small (by omega)]
  simp only [UInt8.reduceToNat]
  omega

section

variable {code : Nat}

theorem decodeFrom_two (lower : 0x80 ≤ code) (upper : code < 0x800) (rest : List UInt8) :
    decodeFrom .start
        (UInt8.ofNat (code / 64 % 32 + 192) :: UInt8.ofNat (code % 64 + 128) :: rest) =
      Char.ofNat code :: decodeFrom .start rest := by
  have first := toNat_ofNat_of_small (n := code / 64 % 32 + 192) (by omega)
  have second := toNat_ofNat_of_small (n := code % 64 + 128) (by omega)
  have whole : (code / 64 % 32 + 192 - 0xC0) * 64 + (code % 64 + 128 - 0x80) = code := by omega
  rw [decodeFrom_lead (by omega) (lead?_two (by omega) (by omega)), first,
    decodeFrom_last (continues_ofNat code), second, whole]

theorem decodeFrom_three (lower : 0x800 ≤ code) (upper : code < 0x10000)
    (scalar : code < 0xD800 ∨ 0xDFFF < code) (rest : List UInt8) :
    decodeFrom .start (UInt8.ofNat (code / 4096 % 16 + 224) ::
        UInt8.ofNat (code / 64 % 64 + 128) :: UInt8.ofNat (code % 64 + 128) :: rest) =
      Char.ofNat code :: decodeFrom .start rest := by
  have first := toNat_ofNat_of_small (n := code / 4096 % 16 + 224) (by omega)
  have second := toNat_ofNat_of_small (n := code / 64 % 64 + 128) (by omega)
  have third := toNat_ofNat_of_small (n := code % 64 + 128) (by omega)
  have whole : ((code / 4096 % 16 + 224 - 0xE0) * 64 + (code / 64 % 64 + 128 - 0x80)) * 64 +
      (code % 64 + 128 - 0x80) = code := by omega
  rw [decodeFrom_lead (by omega) (lead?_three (by omega) (by omega)), first, decodeFrom_more,
    second, decodeFrom_last (continues_ofNat code), third, whole]
  rw [UInt8.le_iff_toNat_le, UInt8.le_iff_toNat_le, second]
  split <;> split <;> simp only [UInt8.reduceToNat] <;> omega

theorem decodeFrom_four (lower : 0x10000 ≤ code) (upper : code < 0x110000) (rest : List UInt8) :
    decodeFrom .start (UInt8.ofNat (code / 262144 % 8 + 240) ::
        UInt8.ofNat (code / 4096 % 64 + 128) :: UInt8.ofNat (code / 64 % 64 + 128) ::
        UInt8.ofNat (code % 64 + 128) :: rest) =
      Char.ofNat code :: decodeFrom .start rest := by
  have first := toNat_ofNat_of_small (n := code / 262144 % 8 + 240) (by omega)
  have second := toNat_ofNat_of_small (n := code / 4096 % 64 + 128) (by omega)
  have third := toNat_ofNat_of_small (n := code / 64 % 64 + 128) (by omega)
  have fourth := toNat_ofNat_of_small (n := code % 64 + 128) (by omega)
  have whole : (((code / 262144 % 8 + 240 - 0xF0) * 64 + (code / 4096 % 64 + 128 - 0x80)) * 64 +
      (code / 64 % 64 + 128 - 0x80)) * 64 + (code % 64 + 128 - 0x80) = code := by omega
  rw [decodeFrom_lead (by omega) (lead?_four (by omega) (by omega)), first, decodeFrom_more,
    second, decodeFrom_more (continues_ofNat (code / 64)), third,
    decodeFrom_last (continues_ofNat code), fourth, whole]
  rw [UInt8.le_iff_toNat_le, UInt8.le_iff_toNat_le, second]
  split <;> split <;> simp only [UInt8.reduceToNat] <;> omega

end

/-- A character is read back from its bytes. -/
theorem decodeFrom_encodeChar (c : Char) (rest : List UInt8) :
    decodeFrom .start (String.utf8EncodeChar c ++ rest) = c :: decodeFrom .start rest := by
  have valid : c.toNat < 0xD800 ∨ (0xDFFF < c.toNat ∧ c.toNat < 0x110000) := c.valid
  by_cases one : c.toNat ≤ 127
  · obtain ⟨byte, read⟩ := Text.stepStart_ascii (Nat.lt_succ_of_le one)
    rw [byte, List.singleton_append, decodeFrom, step, read, List.singleton_append]
  · rw [String.utf8EncodeChar, show c.val.toNat = c.toNat from rfl]
    by_cases two : c.toNat ≤ 2047
    · simp only [if_neg one, if_pos two, List.cons_append, List.nil_append]
      rw [decodeFrom_two (by omega) (by omega), Char.ofNat_toNat]
    by_cases three : c.toNat ≤ 65535
    · simp only [if_neg one, if_neg two, if_pos three, List.cons_append, List.nil_append]
      rw [decodeFrom_three (by omega) (by omega) (by omega), Char.ofNat_toNat]
    · simp only [if_neg one, if_neg two, if_neg three, List.cons_append, List.nil_append]
      rw [decodeFrom_four (by omega) (by omega), Char.ofNat_toNat]

theorem decode_encode (text : List Char) : decode (encode text) = text := by
  unfold decode encode
  induction text with
  | nil => rfl
  | cons c rest ih => rw [List.flatMap_cons, decodeFrom_encodeChar, ih]

end OverflowScan.Utf8
