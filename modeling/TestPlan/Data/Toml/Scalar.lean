import TestPlan.Data.Datum
import TestPlan.Number.Decimal

/-! The bare values of TOML: truth values, numbers, dates and times. -/

namespace TestPlan.Toml

/-- The digits of a run in a base, in which single underscores may stand between digits. -/
def digits? (base : Nat) : List Char → Option (List Nat)
  | [] => none
  | [c] => (Digits.value? base c).map ([·])
  | c :: '_' :: rest => do
    let digit ← Digits.value? base c
    return digit :: (← digits? base rest)
  | c :: rest => do
    let digit ← Digits.value? base c
    return digit :: (← digits? base rest)

/-- The value of digits in a base. -/
def valueOf (base : Nat) (digits : List Nat) : Nat :=
  digits.foldl (fun value digit => value * base + digit) 0

/-- An integer that fits 64 bits with a sign. -/
def fit (value : Int) : Option Datum :=
  if Int64.minValue.toInt ≤ value ∧ value ≤ Int64.maxValue.toInt then some (.integer value)
  else none

/-- Splits a sign off a number. -/
def splitSign : List Char → Bool × List Char
  | '+' :: rest => (false, rest)
  | '-' :: rest => (true, rest)
  | rest => (false, rest)

/-- Digits without a leading zero, unless zero is all there is. -/
def wholeDigits? (characters : List Char) : Option (List Nat) :=
  match digits? 10 characters with
  | some (0 :: _ :: _) => none
  | found => found

/-- The integer that a token spells. -/
def integer? (token : List Char) : Option Datum :=
  match token with
  | '0' :: 'x' :: rest => digits? 16 rest >>= fun digits => fit (valueOf 16 digits)
  | '0' :: 'o' :: rest => digits? 8 rest >>= fun digits => fit (valueOf 8 digits)
  | '0' :: 'b' :: rest => digits? 2 rest >>= fun digits => fit (valueOf 2 digits)
  | _ => do
    let (negative, rest) := splitSign token
    let value := valueOf 10 (← wholeDigits? rest)
    fit (if negative then -value else value)

/-- The parts of a text before and after the first of some characters, which it must contain. -/
def splitAt? (isMark : Char → Bool) (characters : List Char) : Option (List Char × List Char) :=
  match characters.dropWhile (! isMark ·) with
  | [] => none
  | _ :: rest => some (characters.takeWhile (! isMark ·), rest)

/-- The real number that a token spells. -/
def real? (token : List Char) : Option Datum := do
  let (negative, rest) := splitSign token
  if rest = "inf".toList then
    return .real (.ofMagnitude negative FloatFormat.double.infinityBits)
  if rest = "nan".toList then
    return .real (.ofMagnitude negative FloatFormat.double.quietBits)
  let isE := fun c => c == 'e' || c == 'E'
  let (mantissa, exponent?) := match splitAt? isE rest with
    | some (mantissa, exponent) => (mantissa, some exponent)
    | none => (rest, none)
  let (whole, fraction?) := match splitAt? (· == '.') mantissa with
    | some (whole, fraction) => (whole, some fraction)
    | none => (mantissa, none)
  -- A number with neither part is an integer.
  if exponent?.isNone && fraction?.isNone then none
  let whole ← wholeDigits? whole
  let fraction ← match fraction? with
    | some fraction => digits? 10 fraction
    | none => some []
  let exponent : Int ← match exponent? with
    | some exponent =>
      let (negative, digits) := splitSign exponent
      let value := valueOf 10 (← digits? 10 digits)
      some (if negative then -value else value)
    | none => some 0
  let value := Numeral.nearest ⟨negative, whole, fraction, exponent⟩
  -- Past the finite numbers only the positive ones are refused.
  if value.isFinite || negative then return .real value else none

/-- The number that a run of exactly so many digits spells. -/
def fixed? (width : Nat) (characters : List Char) : Option Nat :=
  if characters.length = width ∧ characters.all Char.isDigit then
    Digits.natural? 10 characters
  else none

/-- The number of days of a month. -/
def daysOf (year month : Nat) : Nat :=
  if month = 2 then
    if year % 4 = 0 ∧ (year % 100 ≠ 0 ∨ year % 400 = 0) then 29 else 28
  else if [4, 6, 9, 11].contains month then 30
  else 31

/-- The date that a text spells: year, month and day. -/
def date? (characters : List Char) : Option (List Char) :=
  match characters with
  | [a, b, c, d, '-', e, f, '-', g, h] => do
    let year ← fixed? 4 [a, b, c, d]
    let month ← fixed? 2 [e, f]
    let day ← fixed? 2 [g, h]
    if 1 ≤ month ∧ month ≤ 12 ∧ 1 ≤ day ∧ day ≤ daysOf year month then some characters else none
  | _ => none

/-- The fraction of a second down to its billionths, without zeros at its end. -/
def trimFraction (digits : List Char) : List Char :=
  match ((digits.take 9).reverse.dropWhile (· == '0')).reverse with
  | [] => []
  | kept => '.' :: kept

/-- The time of day that a text spells: hour, minute, second and perhaps a fraction of it. -/
def time? (characters : List Char) : Option (List Char) :=
  match characters with
  | a :: b :: ':' :: c :: d :: ':' :: e :: f :: rest => do
    let hour ← fixed? 2 [a, b]
    let minute ← fixed? 2 [c, d]
    let second ← fixed? 2 [e, f]
    if 23 < hour ∨ 59 < minute ∨ 60 < second then none
    let fraction ← match rest with
      | [] => some []
      | '.' :: digits =>
        if digits.isEmpty || !digits.all Char.isDigit then none else some (trimFraction digits)
      | _ => none
    return [a, b, ':', c, d, ':', e, f] ++ fraction
  | _ => none

/-- The offset from universal time that a text spells. -/
def offset? (characters : List Char) : Option (List Char) :=
  match characters with
  | ['Z'] | ['z'] => some ['Z']
  | sign :: [a, b, ':', c, d] => do
    let hour ← fixed? 2 [a, b]
    let minute ← fixed? 2 [c, d]
    if (sign != '+' && sign != '-') || 23 < hour || 59 < minute then none
    -- No offset at all is a positive one.
    return (if hour = 0 ∧ minute = 0 then '+' else sign) :: [a, b, ':', c, d]
  | _ => none

/-- The usual spelling of a date, a time, or both with or without an offset. -/
def dateTime? (characters : List Char) : Option (List Char) :=
  let isMark := fun c => c == 'Z' || c == 'z' || c == '+' || c == '-'
  match time? characters, date? (characters.take 10), characters.drop 10 with
  | some time, _, _ => some time
  | none, some date, [] => some date
  | none, some date, delimiter :: clock => do
    if delimiter != 'T' && delimiter != 't' && delimiter != ' ' then none
    let time ← time? (clock.takeWhile (! isMark ·))
    let offset ← match clock.dropWhile (! isMark ·) with
      | [] => some []
      | characters => offset? characters
    return date ++ 'T' :: time ++ offset
  | none, none, _ => none

/-- The data of a date or time: a record with its text under a name of its own. -/
def dateTimeDatum (characters : List Char) : Datum :=
  .record [("$__toml_private_datetime", .text (String.ofList characters))]

/-- The value that a token spells. -/
def bareValue? (token : List Char) : Option Datum :=
  if token = "true".toList then some (.boolean true)
  else if token = "false".toList then some (.boolean false)
  else (dateTimeDatum <$> dateTime? token).or ((integer? token).or (real? token))

end TestPlan.Toml
