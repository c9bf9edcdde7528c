import Mathlib.Data.Nat.Digits.Defs
import ScriptLint.Proofs.Fault
import ScriptLint.Text.Numeral

/-!
# What numerals stand for

A numeral is read and written only if it does not have too many digits. Digits are read from left to
right, and what is read is the number that they stand for by their places (`magnitude`), ones last:
`value_eq` says which digits are read, and as what. A number is written in its own decimal digits if it
is below the power of ten that has one digit too many (`write_eq`), and other numbers have other digits
(`toDigits_inj`).
-/

namespace ScriptLint.Numeral

/-! ## Reading -/

/-- The number that decimal digits stand for by their places, ones last. -/
def magnitude (digits : List Char) : Nat :=
  Nat.ofDigits 10 (digits.reverse.map fun c => c.toNat - '0'.toNat)

/-- Digits are read as the number that they stand for by their places. -/
theorem ofDigits_eq_magnitude (digits : List Char) : ofDigits digits = magnitude digits := by
  rw [magnitude, Nat.ofDigits_eq_foldr, List.foldr_map, List.foldr_reverse]
  show digits.foldl _ 0 = digits.foldl (fun n c => (c.toNat - '0'.toNat) + 10 * n) 0
  congr 1
  funext n c
  exact Nat.add_comm _ _

/-- Digits are read, if there are not more than 4300 of them. -/
theorem value_eq (digits : List Char) :
    value digits =
      if 4300 < digits.length then .error (.numeralTooLong digits.length)
      else .ok (magnitude digits) := by
  rw [value, maxDigits, ofDigits_eq_magnitude]

/-- The fault of digits that cannot be read has their number. -/
theorem fault?_value (digits : List Char) :
    fault? (value digits) =
      if 4300 < digits.length then some (.numeralTooLong digits.length) else none := by
  rw [value_eq]
  split
  · rfl
  · rfl

/-! ## Writing -/

/-- A numeral has no colon. -/
theorem colon_not_mem_toDigits (n : Nat) : ':' ∉ Nat.toDigits 10 n := by
  intro hmem
  have hdigit := Nat.isDigit_of_mem_toDigits (by decide) (by decide) hmem
  exact absurd hdigit (by decide)

/-- Numbers with the same numeral are equal. -/
theorem toDigits_inj {m n : Nat} (h : Nat.toDigits 10 m = Nat.toDigits 10 n) : m = n := by
  calc m = Nat.ofDigitChars 10 (Nat.toDigits 10 m) 0 := Nat.ofDigitChars_ten_toDigits.symm
    _ = Nat.ofDigitChars 10 (Nat.toDigits 10 n) 0 := by rw [h]
    _ = n := Nat.ofDigitChars_ten_toDigits

/-- A number is written in its decimal digits, if there are not too many. -/
theorem write_eq (n : Nat) :
    write n = if n < 10 ^ maxDigits then .ok (toString n) else .error .tooManyDigits := by
  have hlength := Nat.length_toDigits_le_iff (b := 10) (n := n) (k := maxDigits) (by decide) (by decide)
  unfold write
  dsimp only
  by_cases hn : n < 10 ^ maxDigits
  · have hfew := hlength.mpr hn
    rw [if_neg (by omega), if_pos hn]
    rfl
  · have hmany := mt hlength.mp hn
    rw [if_pos (by omega), if_neg hn]

end ScriptLint.Numeral
