import TestPlan.Number.Binary

/-! Decimal numerals as written, and the double each one is read as. -/

namespace TestPlan

/-- A decimal numeral split into its digits, with the exponent zero when none is written. -/
structure Numeral where
  negative : Bool
  whole : List Nat
  fraction : List Nat
  exponent : Int
  deriving DecidableEq, Repr

namespace Numeral

/-- The largest significand kept while reading digits. -/
def significandLimit : Nat := UInt64.size - 1

/-- Appends digits to a significand while it stays within the limit, and returns the rest. -/
def absorb (significand : Nat) : List Nat → Nat × List Nat
  | [] => (significand, [])
  | digit :: rest =>
    let next := significand * 10 + digit
    if next ≤ significandLimit then absorb next rest else (significand, digit :: rest)

/-- The significand and the power of ten of a numeral, low digits past the limit dropped. -/
def scientific (numeral : Numeral) : Nat × Int :=
  let (whole, cutWhole) := absorb 0 numeral.whole
  let (significand, cutFraction) := absorb whole numeral.fraction
  -- A dropped whole digit still multiplies by ten, a kept fraction digit divides by ten.
  let kept := numeral.fraction.length - cutFraction.length
  (significand, cutWhole.length - kept + numeral.exponent)

/-- The magnitude bits of a power of ten, infinity past `10 ^ 308`. -/
def powerOfTen (n : Nat) : Nat :=
  FloatFormat.double.roundRatio (Nat.pow 10 n) 1

/-- The rounded product of two finite magnitudes. -/
def product (left right : Nat) : Nat :=
  let format := FloatFormat.double
  format.roundRatio (format.units left * format.units right) (1 <<< (2 * format.leastShift))

/-- The rounded quotient of two finite magnitudes. -/
def quotient (left right : Nat) : Nat :=
  let format := FloatFormat.double
  format.roundRatio (format.units left) (format.units right)

/-- Divides a magnitude by a power of ten, at most 308 digits at a time, rounding each step. -/
def shrink (bits n : Nat) : Nat :=
  if n ≤ 308 then quotient bits (powerOfTen n)
  else if bits = 0 then 0
  else shrink (quotient bits (powerOfTen 308)) (n - 308)
termination_by n

/-- Multiplies a magnitude by a power of ten, or fails when the product is out of range. -/
def grow (bits n : Nat) : Option Nat :=
  if bits = 0 then some 0
  else if 308 < n then none
  else
    let scaled := product bits (powerOfTen n)
    if scaled < FloatFormat.double.infinityBits then some scaled else none

/-- The double a numeral is read as: the rounded significand times a rounded power of ten. -/
def real? (numeral : Numeral) : Option Binary64 := do
  let (significand, exponent) := numeral.scientific
  let bits := FloatFormat.double.roundRatio significand 1
  let magnitude ← match exponent with
    | .ofNat n => grow bits n
    | .negSucc n => some (shrink bits (n + 1))
  return .ofMagnitude numeral.negative magnitude

/-- The double nearest to a numeral, infinite when it is out of range. -/
def nearest (numeral : Numeral) : Binary64 :=
  let digits := numeral.whole ++ numeral.fraction
  let significand := digits.foldl (fun value digit => value * 10 + digit) 0
  let exponent := numeral.exponent - numeral.fraction.length
  -- The decimal order bounds the number, so powers far out of range are not computed.
  let order := (digits.dropWhile (· == 0)).length + exponent
  let magnitude :=
    if significand = 0 ∨ order < -400 then 0
    else if 400 < order then FloatFormat.double.infinityBits
    else FloatFormat.double.roundRatio (significand * Nat.pow 10 exponent.toNat)
      (Nat.pow 10 (-exponent).toNat)
  .ofMagnitude numeral.negative magnitude

/-- The whole part as a natural number. -/
def wholeValue (numeral : Numeral) : Nat :=
  numeral.whole.foldl (fun value digit => value * 10 + digit) 0

end Numeral

end TestPlan
