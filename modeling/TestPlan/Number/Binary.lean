/-! Binary floating-point numbers kept as bit patterns: exact value, rounding and comparison. -/

namespace TestPlan

/-- The quotient of two naturals rounded to the nearest natural, a tie going to the even one. -/
def roundHalfEven (numerator denominator : Nat) : Nat :=
  let quotient := numerator / denominator
  let twice := 2 * (numerator % denominator)
  if denominator < twice || (twice == denominator && quotient % 2 == 1) then quotient + 1
  else quotient

/-- A binary interchange format, given by the widths of its fraction and exponent fields. -/
structure FloatFormat where
  fractionBits : Nat
  exponentBits : Nat

namespace FloatFormat

/-- The 32-bit format. -/
def single : FloatFormat := ⟨23, 8⟩

/-- The 64-bit format. -/
def double : FloatFormat := ⟨52, 11⟩

/-- The least positive number of the format is `2 ^ -leastShift`. -/
def leastShift (format : FloatFormat) : Nat :=
  (1 <<< (format.exponentBits - 1)) + format.fractionBits - 2

/-- The magnitude bits of infinity, which are also the first bits that name no finite number. -/
def infinityBits (format : FloatFormat) : Nat :=
  ((1 <<< format.exponentBits) - 1) <<< format.fractionBits

/-- The magnitude bits of the undefined number whose fraction has only its highest bit set. -/
def quietBits (format : FloatFormat) : Nat :=
  format.infinityBits + (1 <<< (format.fractionBits - 1))

/-- The magnitude bits of the number nearest to a quotient, infinity when it is out of range. -/
def roundRatio (format : FloatFormat) (numerator denominator : Nat) : Nat :=
  -- Counting in units of the least positive number makes every finite number a natural.
  let units := numerator <<< format.leastShift
  -- A number with more significant bits than the fraction field holds drops the lowest ones.
  let dropped := (units / denominator).log2 - format.fractionBits
  -- A significand that rounds up to the next power of two carries into the exponent field.
  let bits := (dropped <<< format.fractionBits)
    + roundHalfEven units (denominator <<< dropped)
  min bits format.infinityBits

/-- A finite magnitude counted in units of the least positive number. -/
def units (format : FloatFormat) (bits : Nat) : Nat :=
  let exponent := bits >>> format.fractionBits
  let fraction := bits % (1 <<< format.fractionBits)
  if exponent = 0 then fraction
  else ((1 <<< format.fractionBits) + fraction) <<< (exponent - 1)

end FloatFormat

/-- A 32-bit floating-point number. -/
structure Binary32 where
  bits : UInt32
  deriving DecidableEq, Repr

/-- A 64-bit floating-point number. -/
structure Binary64 where
  bits : UInt64
  deriving DecidableEq, Repr

/-- Whether two bit patterns, split into sign and magnitude, are equal as numbers. -/
def sameNumber (format : FloatFormat) (left right : Bool × Nat) : Bool :=
  -- Patterns past infinity name no number and equal nothing, not even themselves.
  left.2 ≤ format.infinityBits && left.2 == right.2
    -- Both zeros are the same number.
    && (left.1 == right.1 || left.2 == 0)

namespace Binary32

/-- The number with the given sign whose magnitude has the given bits. -/
def ofMagnitude (negative : Bool) (bits : Nat) : Binary32 :=
  ⟨UInt32.ofNat (if negative then (1 <<< 31) + bits else bits)⟩

/-- Whether the sign bit is set. -/
def isNegative (x : Binary32) : Bool :=
  1 <<< 31 ≤ x.bits.toNat

/-- All bits but the sign. -/
def magnitude (x : Binary32) : Nat :=
  x.bits.toNat % (1 <<< 31)

/-- Whether the number is neither infinite nor undefined. -/
def isFinite (x : Binary32) : Bool :=
  x.magnitude < FloatFormat.single.infinityBits

/-- The number nearest to an integer. -/
def ofInt (n : Int) : Binary32 :=
  ofMagnitude (n < 0) (FloatFormat.single.roundRatio n.natAbs 1)

/-- Equality of numbers, which joins the two zeros and denies undefined ones. -/
def numericEq (x y : Binary32) : Bool :=
  sameNumber .single (x.isNegative, x.magnitude) (y.isNegative, y.magnitude)

end Binary32

namespace Binary64

/-- The number with the given sign whose magnitude has the given bits. -/
def ofMagnitude (negative : Bool) (bits : Nat) : Binary64 :=
  ⟨UInt64.ofNat (if negative then (1 <<< 63) + bits else bits)⟩

/-- Whether the sign bit is set. -/
def isNegative (x : Binary64) : Bool :=
  1 <<< 63 ≤ x.bits.toNat

/-- All bits but the sign. -/
def magnitude (x : Binary64) : Nat :=
  x.bits.toNat % (1 <<< 63)

/-- Whether the number is neither infinite nor undefined. -/
def isFinite (x : Binary64) : Bool :=
  x.magnitude < FloatFormat.double.infinityBits

/-- The number nearest to an integer. -/
def ofInt (n : Int) : Binary64 :=
  ofMagnitude (n < 0) (FloatFormat.double.roundRatio n.natAbs 1)

/-- Equality of numbers, which joins the two zeros and denies undefined ones. -/
def numericEq (x y : Binary64) : Bool :=
  sameNumber .double (x.isNegative, x.magnitude) (y.isNegative, y.magnitude)

/-- The 32-bit number nearest to a 64-bit one. -/
def narrow (x : Binary64) : Binary32 :=
  let magnitude :=
    if x.isFinite then
      FloatFormat.single.roundRatio (FloatFormat.double.units x.magnitude)
        (1 <<< FloatFormat.double.leastShift)
    else if x.magnitude = FloatFormat.double.infinityBits then FloatFormat.single.infinityBits
    -- An undefined number stays undefined and quiet.
    else FloatFormat.single.quietBits
  .ofMagnitude x.isNegative magnitude

end Binary64

/-- The 64-bit number of the same value, which always exists. -/
def Binary32.widen (x : Binary32) : Binary64 :=
  let magnitude :=
    if x.isFinite then
      FloatFormat.double.roundRatio (FloatFormat.single.units x.magnitude)
        (1 <<< FloatFormat.single.leastShift)
    else if x.magnitude = FloatFormat.single.infinityBits then FloatFormat.double.infinityBits
    -- An undefined number stays undefined and quiet.
    else FloatFormat.double.quietBits
  .ofMagnitude x.isNegative magnitude

end TestPlan
