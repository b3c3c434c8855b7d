import OverflowScan.Proofs.Text.Decimal
import OverflowScan.Proofs.Text.Hexadecimal
import OverflowScan.Text.Utf8

set_option autoImplicit false

namespace OverflowScan.Text

def Ascii (text : List Char) : Prop :=
  ∀ c ∈ text, c.toNat < 128

theorem ascii_nil : Ascii [] := by
  simp [Ascii]

theorem Ascii.cons {c : Char} {text : List Char} (first : c.toNat < 128) (rest : Ascii text) :
    Ascii (c :: text) := by
  intro other member
  rcases List.mem_cons.mp member with same | inside
  · rw [same]
    exact first
  · exact rest other inside

theorem Ascii.append {first second : List Char} (left : Ascii first) (right : Ascii second) :
    Ascii (first ++ second) := by
  intro c member
  rcases List.mem_append.mp member with before | behind
  · exact left c before
  · exact right c behind

theorem ascii_replicate {c : Char} (small : c.toNat < 128) (count : Nat) :
    Ascii (List.replicate count c) := by
  intro other member
  rw [List.eq_of_mem_replicate member]
  exact small

theorem ascii_intercalate {separator : List Char} {members : List (List Char)}
    (between : Ascii separator) (inside : ∀ member ∈ members, Ascii member) :
    Ascii (separator.intercalate members) := by
  induction members with
  | nil => exact ascii_nil
  | cons first rest ih =>
    have front := inside first List.mem_cons_self
    have later := ih fun member there => inside member (List.mem_cons_of_mem _ there)
    cases rest with
    | nil =>
      rw [List.intercalate_singleton]
      exact front
    | cons second others =>
      rw [List.intercalate_cons_cons]
      exact (front.append between).append later

theorem toNat_digitChar_lt : ∀ digit, digit < 16 → (Nat.digitChar digit).toNat < 128 := by
  decide

theorem ascii_hexPadded (width n : Nat) : Ascii (hexPadded width n) := by
  apply Ascii.append (ascii_replicate (by decide) _)
  intro c member
  obtain ⟨digit, small, same⟩ := mem_toDigits_hex member
  rw [same]
  exact toNat_digitChar_lt digit small

theorem ascii_decimal (n : Int) : Ascii (decimal n).toList := by
  intro c member
  rcases mem_decimal member with sign | digit
  · rw [sign]
    decide
  · have below := of_decide_eq_true (Bool.and_eq_true_iff.mp digit).2
    have small : c.toNat ≤ '9'.toNat := UInt32.le_iff_toNat_le.mp below
    exact Nat.lt_of_le_of_lt small (by decide)

/-- One ASCII character is one byte, which the reader takes for it between two characters. -/
theorem stepStart_ascii {c : Char} (small : c.toNat < 128) :
    String.utf8EncodeChar c = [c.val.toUInt8] ∧
      Utf8.stepStart c.val.toUInt8 = ([c], .start) := by
  have alone : c.utf8Size = 1 :=
    Char.utf8Size_eq_one_iff.mpr (UInt32.le_iff_toNat_le.mpr (Nat.le_of_lt_succ small))
  have kept : c.val.toUInt8.toNat = c.toNat := by
    rw [UInt32.toNat_toUInt8]
    exact Nat.mod_eq_of_lt (Nat.lt_trans small (by decide))
  have low : c.val.toUInt8 < 0x80 := by
    rw [UInt8.lt_iff_toNat_lt, kept]
    exact small
  refine ⟨String.utf8EncodeChar_eq_singleton alone, ?_⟩
  rw [Utf8.stepStart, if_pos low, kept, Char.ofNat_toNat]

theorem Ascii.decode_encode {text : List Char} (ascii : Ascii text) :
    Utf8.decode (Utf8.encode text) = text := by
  unfold Utf8.decode Utf8.encode
  induction text with
  | nil => rfl
  | cons c rest ih =>
    have later := ih fun other inside => ascii other (List.mem_cons_of_mem _ inside)
    obtain ⟨byte, read⟩ := stepStart_ascii (ascii c List.mem_cons_self)
    rw [List.flatMap_cons, byte, List.singleton_append, Utf8.decodeFrom, Utf8.step, read]
    exact congrArg (c :: ·) later

end OverflowScan.Text
