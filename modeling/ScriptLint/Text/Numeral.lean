import ScriptLint.Fault

/-!
# Numerals

Numbers are read from decimal digits and written in them. Both take time that grows faster than the
number of digits, so a numeral has `Numeral.maxDigits` of them at most.
-/

namespace ScriptLint.Numeral

/-- The most digits that a numeral is read or written with. -/
def maxDigits : Nat := 4300

/-- The number that decimal digits stand for. -/
def ofDigits (digits : List Char) : Nat :=
  digits.foldl (fun n c => 10 * n + (c.toNat - '0'.toNat)) 0

/-- The number that decimal digits stand for, if there are not too many; zeros in front count. -/
def value (digits : List Char) : Except Fault Nat :=
  if maxDigits < digits.length then .error (.numeralTooLong digits.length)
  else .ok (ofDigits digits)

/-- The number in decimal digits, if there are not too many. -/
def write (n : Nat) : Except Fault String :=
  let digits := Nat.toDigits 10 n
  if maxDigits < digits.length then .error .tooManyDigits else .ok (String.ofList digits)

end ScriptLint.Numeral
