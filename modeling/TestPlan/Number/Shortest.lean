import TestPlan.Number.Decimal

/-! The shortest decimal text that names a finite double. -/

namespace TestPlan.Shortest

/-- The digits of a natural number, most significant first. -/
def digits (n : Nat) : List Char :=
  Nat.toDigits 10 n

/-- The decimal exponent of the first significant digit of a positive quotient. -/
def leadingExponent (numerator denominator : Nat) : Int :=
  if denominator ≤ numerator then ((digits (numerator / denominator)).length : Int) - 1
  else
    -- Below one, the reciprocal rounded up has as many digits as there are places to move.
    let inverse := (denominator + numerator - 1) / numerator
    (-(digits (inverse - 1)).length : Int)

/-- A quotient scaled by a power of ten, as a quotient. -/
def rescale (numerator denominator : Nat) : Int → Nat × Nat
  | .ofNat n => (numerator * Nat.pow 10 n, denominator)
  | .negSucc n => (numerator, denominator * Nat.pow 10 (n + 1))

/-- Whether a decimal significand and exponent are nearest to the given magnitude bits. -/
def readsBack (bits significand : Nat) (exponent : Int) : Bool :=
  let (numerator, denominator) := rescale significand 1 exponent
  FloatFormat.double.roundRatio numerator denominator == bits

/-- The nearest decimal of the given number of digits, if it reads back. -/
def candidate (bits count : Nat) : Option (Nat × Int) :=
  let format := FloatFormat.double
  let numerator := format.units bits
  let denominator := 1 <<< format.leastShift
  let exponent := leadingExponent numerator denominator - (count : Int) + 1
  let (scaled, unit) := rescale numerator denominator (-exponent)
  let low := scaled / unit
  let nearest := roundHalfEven scaled unit
  let other := if nearest = low then low + 1 else low
  if readsBack bits nearest exponent then some (nearest, exponent)
  else if readsBack bits other exponent then some (other, exponent)
  else none

/-- The first candidate with at least the given number of digits; seventeen always suffice. -/
def search (bits : Nat) : List Nat → Nat × Int
  | [] => (0, 0)
  | count :: rest => (candidate bits count).getD (search bits rest)

/-- Drops trailing zero digits, raising the exponent once for each. -/
def trim (significand : Nat) (exponent : Int) : Nat × Int :=
  let all := digits significand
  let kept := (all.reverse.dropWhile (· == '0')).reverse
  let dropped := all.length - kept.length
  (significand / Nat.pow 10 dropped, exponent + dropped)

/-- The text of a significand and exponent: positional near one, with an exponent elsewhere. -/
def layout (significand : Nat) (exponent : Int) : String :=
  let text := digits significand
  let point := (text.length : Int) + exponent
  if 0 ≤ exponent ∧ point ≤ 16 then
    String.ofList (text ++ List.replicate exponent.toNat '0' ++ ['.', '0'])
  else if 0 < point ∧ point ≤ 16 then
    String.ofList (text.take point.toNat ++ '.' :: text.drop point.toNat)
  else if -5 < point ∧ point ≤ 0 then
    String.ofList (['0', '.'] ++ List.replicate (-point).toNat '0' ++ text)
  else
    let tail := if text.length = 1 then [] else '.' :: text.drop 1
    String.ofList (text.take 1 ++ tail) ++ "e" ++ toString (point - 1)

/-- The shortest text of a finite double that reads back as the same double. -/
def text (x : Binary64) : String :=
  let sign := if x.isNegative then "-" else ""
  if x.magnitude = 0 then sign ++ "0.0"
  else
    let (significand, exponent) := search x.magnitude ((List.range 17).map (· + 1))
    let (significand, exponent) := trim significand exponent
    sign ++ layout significand exponent

end TestPlan.Shortest
