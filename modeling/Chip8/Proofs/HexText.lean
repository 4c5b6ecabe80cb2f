import Mathlib.Algebra.Ring.Nat
import Chip8.Text.Hex

/-!
Hexadecimal texts can be read back.  `Hex.value` is the number that some digits
stand for; zeros in front do not count, so a text of any width gives its number
back, and a number that fits its width has exactly that many digits.
-/

namespace Chip8.Hex

def digitValue (char : Char) : Nat :=
  if char.toNat < 58 then char.toNat - 48 else char.toNat - 55

/-- The number that digits stand for, most significant first. -/
def value (chars : List Char) : Nat :=
  chars.foldl (fun total char => 16 * total + digitValue char) 0

theorem digitValue_digit : ∀ number < 16, digitValue (digit number) = number := by
  decide

theorem value_append_singleton (chars : List Char) (char : Char) :
    value (chars ++ [char]) = 16 * value chars + digitValue char := by
  simp [value]

theorem value_digits (number : Nat) : value (digits number) = number := by
  fun_induction digits number with
  | case1 number small => simp [value, digitValue_digit number small]
  | case2 number large ih =>
      rw [value_append_singleton, ih, digitValue_digit _ (Nat.mod_lt _ (by decide))]
      exact Nat.div_add_mod number 16

theorem value_replicate_zero_append (count : Nat) (chars : List Char) :
    value (List.replicate count '0' ++ chars) = value chars := by
  induction count with
  | zero => rfl
  | succ count ih => exact ih

/-- The digits of a number give it back, whatever their width. -/
theorem value_paddedDigits (width number : Nat) : value (paddedDigits width number) = number := by
  rw [paddedDigits, value_replicate_zero_append, value_digits]

/-- Numbers that are written alike are the same. -/
theorem paddedDigits_injective (width : Nat) : Function.Injective (paddedDigits width) :=
  Function.LeftInverse.injective (value_paddedDigits width)

theorem exists_digit_of_mem_digits {number : Nat} {char : Char} (member : char ∈ digits number) :
    ∃ small < 16, char = digit small := by
  fun_induction digits number with
  | case1 number small => exact ⟨number, small, List.mem_singleton.mp member⟩
  | case2 number large ih =>
      rcases List.mem_append.mp member with front | last
      · exact ih front
      · exact ⟨number % 16, Nat.mod_lt _ (by decide), List.mem_singleton.mp last⟩

theorem exists_digit_of_mem_paddedDigits {width number : Nat} {char : Char}
    (member : char ∈ paddedDigits width number) : ∃ small < 16, char = digit small := by
  rcases List.mem_append.mp member with zero | own
  · exact ⟨0, by decide, (List.mem_replicate.mp zero).2⟩
  · exact exists_digit_of_mem_digits own

/-- A text of digits has only what every digit has. -/
theorem forall_mem_paddedDigits {holds : Char → Prop}
    (digits_hold : ∀ small < 16, holds (digit small))
    (width number : Nat) : ∀ char ∈ paddedDigits width number, holds char := by
  intro char member
  obtain ⟨small, lt, rfl⟩ := exists_digit_of_mem_paddedDigits member
  exact digits_hold small lt

theorem length_digits_le {width number : Nat} (positive : 0 < width)
    (fits : number < 16 ^ width) : (digits number).length ≤ width := by
  induction width generalizing number with
  | zero => exact absurd positive (Nat.lt_irrefl 0)
  | succ width ih =>
      rw [digits]
      split
      next => exact positive
      next large =>
        have quotientFits : number / 16 < 16 ^ width := by
          rw [Nat.div_lt_iff_lt_mul (by decide)]
          exact fits
        have widthPositive : 0 < width := by
          rcases Nat.eq_zero_or_pos width with rfl | positive
          · exact absurd quotientFits (by omega)
          · exact positive
        have front := ih widthPositive quotientFits
        simp only [List.length_append, List.length_singleton]
        omega

theorem le_length_paddedDigits (width number : Nat) :
    width ≤ (paddedDigits width number).length := by
  simp only [paddedDigits, List.length_append, List.length_replicate]
  omega

/-- A number that fits its width has exactly as many digits. -/
theorem length_paddedDigits {width number : Nat} (positive : 0 < width)
    (fits : number < 16 ^ width) : (paddedDigits width number).length = width := by
  have short := length_digits_le positive fits
  simp only [paddedDigits, List.length_append, List.length_replicate]
  omega

end Chip8.Hex
