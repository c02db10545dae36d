import Mathlib.Algebra.Ring.Int.Defs
import Mathlib.Algebra.Ring.Nat
import OutlineTable.Text.Encoding

/-! Decimal numbers read back. The digits that a number is written with stand for it, and
no digits that stand for it are fewer. -/
namespace OutlineTable.Text

open Unicode

theorem number_concat (digits : Text) (c : Char) :
    number (digits ++ [c]) = 10 * number digits + (digitValue? c).getD 0 := by
  simp [number]

theorem digitValue?_digitChar (low : digit < 10) : digitValue? (Nat.digitChar digit) = some digit := by
  have all : ∀ digit : Fin 10, digitValue? (Nat.digitChar digit) = some digit.val := by decide
  exact all ⟨digit, low⟩

theorem number_ofNat (n : Nat) : number (ofNat n) = n := by
  induction n using Nat.strongRecOn with
  | ind n ih =>
    rw [ofNat, Nat.toDigits_eq_if (by omega)]
    split
    next low => simp [number, digitValue?_digitChar low]
    next high =>
      have quotient : number (Nat.toDigits 10 (n / 10)) = n / 10 := ih (n / 10) (by omega)
      have last : n % 10 < 10 := Nat.mod_lt n (by omega)
      rw [number_concat, quotient, digitValue?_digitChar last, Option.getD_some]
      exact Nat.div_add_mod n 10

theorem isDigit_of_mem_ofNat (member : c ∈ ofNat n) : isDigit c = true := by
  have ascii := Nat.isDigit_of_mem_toDigits (by omega) (by omega) member
  simp only [Char.isDigit, Bool.and_eq_true, decide_eq_true_eq, ge_iff_le, UInt32.le_iff_toNat_le] at ascii
  exact isDigit_of_toNat ascii.1 ascii.2

theorem ofNat_ne_nil (n : Nat) : ofNat n ≠ [] := Nat.toDigits_ne_nil

theorem digitValue_lt_ten (c : Char) : (digitValue? c).getD 0 < 10 := by
  cases value : digitValue? c with
  | none => decide
  | some digit => exact digitValue?_lt_ten value

/-- Each digit read leaves the total below the next power of ten. -/
theorem foldl_digits_lt (digits : Text) (total : Nat) :
    digits.foldl (fun total c => 10 * total + (digitValue? c).getD 0) total <
      (total + 1) * 10 ^ digits.length := by
  induction digits generalizing total with
  | nil => simp
  | cons c digits ih =>
    have digit := digitValue_lt_ten c
    have rest := ih (10 * total + (digitValue? c).getD 0)
    have step : 10 * total + (digitValue? c).getD 0 + 1 ≤ 10 * (total + 1) := by omega
    calc
      _ < (10 * total + (digitValue? c).getD 0 + 1) * 10 ^ digits.length := rest
      _ ≤ 10 * (total + 1) * 10 ^ digits.length := Nat.mul_le_mul_right _ step
      _ = (total + 1) * 10 ^ (c :: digits).length := by
        rw [List.length_cons, Nat.pow_succ, Nat.mul_comm 10, Nat.mul_assoc, Nat.mul_comm 10]

theorem number_lt (digits : Text) : number digits < 10 ^ digits.length := by
  simpa [number] using foldl_digits_lt digits 0

/-- A number is written with no more digits than it was read from. -/
theorem length_ofNat_number_le {digits : Text} (nonempty : digits ≠ []) :
    (ofNat (number digits)).length ≤ digits.length := by
  have some := List.length_pos_iff.mpr nonempty
  exact (Nat.length_toDigits_le_iff (by omega) some).mpr (number_lt digits)

theorem length_ofNat_le_iff (positive : 0 < count) : (ofNat n).length ≤ count ↔ n < 10 ^ count :=
  Nat.length_toDigits_le_iff (by omega) positive

end OutlineTable.Text
