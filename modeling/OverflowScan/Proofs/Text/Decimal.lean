import OverflowScan.Text.Decimal

set_option autoImplicit false

namespace OverflowScan.Text

theorem decimal_natCast (n : Nat) : decimal n = Nat.repr n := by
  unfold decimal
  rw [if_neg (by omega), Int.natAbs_natCast]

theorem isDigit_of_mem_repr {n : Nat} {c : Char} (member : c ∈ (Nat.repr n).toList) :
    c.isDigit := by
  rw [Nat.toList_repr] at member
  exact Nat.isDigit_of_mem_toDigits (by decide) (by decide) member

theorem mem_decimal {n : Int} {c : Char} (member : c ∈ (decimal n).toList) :
    c = '-' ∨ c.isDigit := by
  unfold decimal at member
  split at member
  · rw [String.toList_append] at member
    rcases List.mem_append.mp member with sign | digit
    · exact Or.inl (List.mem_singleton.mp sign)
    · exact Or.inr (isDigit_of_mem_repr digit)
  · exact Or.inr (isDigit_of_mem_repr member)

/-- No number but zero is written with a zero in front. -/
theorem toDigits_leading_zero {n : Nat} (zero : (Nat.toDigits 10 n).head? = some '0') :
    Nat.toDigits 10 n = ['0'] := by
  induction n using Nat.strongRecOn with
  | ind n ih =>
    by_cases small : n < 10
    · rw [Nat.toDigits_of_lt_base small, List.head?_cons] at zero
      rw [Nat.toDigits_of_lt_base small, Option.some.inj zero]
    · rw [Nat.toDigits_of_base_le (by decide) (by omega), List.head?_append,
        List.head?_eq_some_head Nat.toDigits_ne_nil, Option.some_or,
        ← List.head?_eq_some_head Nat.toDigits_ne_nil] at zero
      have above := Nat.ofDigitChars_ten_toDigits (n := n / 10)
      rw [ih (n / 10) (by omega) zero] at above
      have none : n / 10 = 0 := above.symm
      omega

end OverflowScan.Text
