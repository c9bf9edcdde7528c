import ScriptLint.Decimal.Shortest

/-!
# How floating-point numbers are written

A number is written with the fewest digits that identify it, positionally when its point is near the
digits, and with an exponent otherwise. `Decimal.Layout` holds the decisions of a format, and
`Layout.write` applies them.
-/

namespace ScriptLint.Decimal

/-- The decisions of a number format. -/
structure Layout where
  /-- The least place of the point for which a number is written positionally. -/
  leastPoint : Int
  /-- The greatest such place. -/
  greatestPoint : Int
  /-- The least number of digits of an exponent. -/
  exponentWidth : Nat
  deriving DecidableEq, Repr

namespace Layout

/-- Zeros before digits, up to a width. -/
def padZeros (width : Nat) (digits : List Char) : List Char :=
  List.replicate (width - digits.length) '0' ++ digits

/-- A decimal number with a point in it; an integer has a zero after the point. -/
def positional (d : Digits) : List Char :=
  if d.point ≤ 0 then '0' :: '.' :: (List.replicate (-d.point).toNat '0' ++ d.digits)
  else
    let before := d.point.toNat
    let whole := d.digits.take before ++ List.replicate (before - d.digits.length) '0'
    let fraction := d.digits.drop before
    whole ++ '.' :: (if fraction.isEmpty then ['0'] else fraction)

/-- A decimal number with one digit before the point and a signed exponent. -/
def scientific (layout : Layout) (d : Digits) : List Char :=
  let exponent := d.point - 1
  let sign := if exponent < 0 then '-' else '+'
  let fraction := d.digits.drop 1
  d.digits.take 1 ++ (if fraction.isEmpty then [] else '.' :: fraction) ++
    'e' :: sign :: padZeros layout.exponentWidth (Nat.toDigits 10 exponent.natAbs)

/-- A floating-point number in a format. -/
def write (layout : Layout) (x : Float) : String :=
  if x.isNaN then "nan"
  else
    let bits := x.toBits
    let sign := if isSigned bits then "-" else ""
    if x.isInf then sign ++ "inf"
    else
      let size := Dyadic.ofBits bits
      let digits : Digits := if size.mantissa = 0 then ⟨['0'], 1⟩ else size.shortest
      let shown :=
        if layout.leastPoint ≤ digits.point && digits.point ≤ layout.greatestPoint then
          positional digits
        else layout.scientific digits
      sign ++ String.ofList shown

end Layout

end ScriptLint.Decimal
