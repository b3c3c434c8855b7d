import OverflowScan.Text.Quoted

set_option autoImplicit false

namespace OverflowScan.Text

def hexValue? (c : Char) : Option Nat :=
  if '0' ≤ c ∧ c ≤ '9' then some (c.toNat - '0'.toNat)
  else if 'a' ≤ c ∧ c ≤ 'f' then some (c.toNat - 'a'.toNat + 10)
  else if 'A' ≤ c ∧ c ≤ 'F' then some (c.toNat - 'A'.toNat + 10)
  else none

def hexAppend? (n : Nat) (c : Char) : Option Nat :=
  (hexValue? c).map (16 * n + ·)

/-- The number of a sequence of hexadecimal digits. -/
def hexNumber? (digits : List Char) : Option Nat :=
  digits.foldlM hexAppend? 0

theorem hexValue?_digitChar :
    ∀ digit, digit < 16 → hexValue? (Nat.digitChar digit) = some digit := by
  decide

theorem hexAppend?_digitChar (n : Nat) {digit : Nat} (small : digit < 16) :
    hexAppend? n (Nat.digitChar digit) = some (16 * n + digit) := by
  rw [hexAppend?, hexValue?_digitChar digit small, Option.map_some]

theorem hexNumber?_toDigits (n : Nat) : hexNumber? (Nat.toDigits 16 n) = some n := by
  unfold hexNumber?
  induction n using Nat.strongRecOn with
  | ind n ih =>
    by_cases small : n < 16
    · rw [Nat.toDigits_of_lt_base small, List.foldlM_cons, hexAppend?_digitChar 0 small]
      simp
    · have last : n % 16 < 16 := Nat.mod_lt n (by decide)
      rw [Nat.toDigits_of_base_le (by decide) (by omega), List.foldlM_append,
        ih (n / 16) (by omega)]
      simp [hexAppend?_digitChar (n / 16) last, Nat.div_add_mod]

theorem hexNumber?_zeros (count : Nat) (digits : List Char) :
    hexNumber? (List.replicate count '0' ++ digits) = hexNumber? digits := by
  induction count with
  | zero => rw [List.replicate_zero, List.nil_append]
  | succ count ih =>
    have zero : hexAppend? 0 '0' = some 0 := by decide
    rw [List.replicate_succ, List.cons_append, ← ih, hexNumber?, List.foldlM_cons, zero]
    rfl

theorem hexNumber?_hexPadded (width n : Nat) : hexNumber? (hexPadded width n) = some n := by
  rw [hexPadded, hexNumber?_zeros, hexNumber?_toDigits]

theorem length_hexPadded {width n : Nat} (positive : 0 < width) (fits : n < Nat.pow 16 width) :
    (hexPadded width n).length = width := by
  have short := (Nat.length_toDigits_le_iff (by decide) positive).mpr fits
  rw [hexPadded, List.length_append, List.length_replicate]
  omega

theorem mem_toDigits_hex {n : Nat} {c : Char} (member : c ∈ Nat.toDigits 16 n) :
    ∃ digit, digit < 16 ∧ c = Nat.digitChar digit := by
  induction n using Nat.strongRecOn with
  | ind n ih =>
    by_cases small : n < 16
    · rw [Nat.toDigits_of_lt_base small] at member
      exact ⟨n, small, List.mem_singleton.mp member⟩
    · rw [Nat.toDigits_of_base_le (by decide) (by omega)] at member
      rcases List.mem_append.mp member with before | last
      · exact ih (n / 16) (by omega) before
      · exact ⟨n % 16, Nat.mod_lt n (by decide), List.mem_singleton.mp last⟩

end OverflowScan.Text
