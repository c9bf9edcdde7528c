/-!
# The fewest digits of a floating-point number

A finite double stands for an integer times a power of two, and every real number in an interval
around that value is rounded to it. `Decimal.shortest` gives the decimal number with the fewest
digits in that interval and, of those with so many digits, the one nearest to the value. All
arithmetic is on natural numbers, so nothing is lost on the way.
-/

namespace ScriptLint.Decimal

/-- The size of a finite double: `mantissa * 2 ^ exponent`. -/
structure Dyadic where
  mantissa : Nat
  exponent : Int
  /-- Whether the next smaller double is only half as far away as the next larger one. -/
  closerBelow : Bool
  deriving DecidableEq, Repr

/-- The number of fractions that a double can have, each with as many exponents. -/
def fractions : Nat := 0x10000000000000

/-- The size of the finite double with the given bits; the sign does not matter. -/
def Dyadic.ofBits (bits : UInt64) : Dyadic :=
  let biased : Nat := (bits.toNat / fractions) % 0x800
  let fraction : Nat := bits.toNat % fractions
  if biased = 0 then ⟨fraction, -1074, false⟩
  else ⟨fractions + fraction, (biased : Int) - 1075, fraction = 0 && 1 < biased⟩

/-- Whether the sign bit is set in the bits of a double. -/
def isSigned (bits : UInt64) : Bool := 0x8000000000000000 ≤ bits

/-- A decimal number, the `digits` of an integer with the point moved: `digits * 10 ^ (point - n)`
for `n` digits, so that the point stands after the first `point` of them. -/
structure Digits where
  digits : List Char
  point : Int
  deriving DecidableEq, Repr

/-- The power of a base with an integer as exponent, as a quotient. -/
def powerOf (base : Nat) (exponent : Int) : Nat × Nat :=
  (Nat.pow base exponent.toNat, Nat.pow base (-exponent).toNat)

/-- Whether `a * 2 ^ i` is less than, equal to or greater than `b * 10 ^ j`. -/
def compareScaled (a : Nat) (i : Int) (b : Nat) (j : Int) : Ordering :=
  let two := powerOf 2 i
  let ten := powerOf 10 j
  compare (a * two.1 * ten.2) (b * ten.1 * two.2)

/-- Whether `digits * 10 ^ scale` is among the reals that are rounded to the value. The ends of the
interval are when the mantissa is even. -/
def Dyadic.accepts (x : Dyadic) (digits : Nat) (scale : Int) : Bool :=
  let low := 4 * x.mantissa - (if x.closerBelow then 1 else 2)
  let high := 4 * x.mantissa + 2
  let below := compareScaled low (x.exponent - 2) digits scale
  let above := compareScaled high (x.exponent - 2) digits scale
  if x.mantissa % 2 = 0 then below != .gt && above != .lt else below == .lt && above == .gt

/-- The number of decimal digits before the point of `numerator / denominator`, or minus the number
of zeros after it when there are none. -/
def pointOf (numerator denominator : Nat) : Int :=
  if denominator ≤ numerator then ((Nat.toDigits 10 (numerator / denominator)).length : Int)
  else
    match (List.range 400).find? fun k => denominator ≤ numerator * Nat.pow 10 (k + 1) with
    | some k => -(k : Int)
    | none => -400

/-- The value as a quotient of natural numbers. -/
def Dyadic.quotient (x : Dyadic) : Nat × Nat :=
  let power := powerOf 2 x.exponent
  (x.mantissa * power.1, power.2)

/-- The best decimal number with `count` digits, when one of those is rounded to the value. -/
def Dyadic.withDigits? (x : Dyadic) (point : Int) (count : Nat) : Option Nat :=
  let scale := point - count
  let (numerator, denominator) := x.quotient
  let unit := powerOf 10 scale
  let numerator := numerator * unit.2
  let denominator := denominator * unit.1
  let floor := numerator / denominator
  let nearer := 2 * (numerator % denominator)
  let candidates :=
    if nearer < denominator || (nearer = denominator && floor % 2 = 0) then [floor, floor + 1]
    else [floor + 1, floor]
  candidates.find? fun digits => x.accepts digits scale

/-- The decimal number with the fewest digits that is rounded to a positive value. -/
def Dyadic.shortest (x : Dyadic) : Digits :=
  let (numerator, denominator) := x.quotient
  let point := pointOf numerator denominator
  match (List.range 17).findSome? fun k =>
      (x.withDigits? point (k + 1)).map fun digits => (digits, k + 1) with
  | some (digits, count) =>
    let shown := Nat.toDigits 10 digits
    -- Rounding up can carry into a new digit, which moves the point.
    let point := point + ((shown.length : Int) - count)
    ⟨(shown.reverse.dropWhile (· == '0')).reverse, point⟩
  | none => ⟨Nat.toDigits 10 (numerator / denominator), point⟩

end ScriptLint.Decimal
