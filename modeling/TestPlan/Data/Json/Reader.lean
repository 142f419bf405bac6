import TestPlan.Data.Datum
import TestPlan.Number.Decimal

/-! Reading JSON text into a data tree. -/

namespace TestPlan.Json

/-- Whether a character may stand between tokens. -/
def isBlank (c : Char) : Bool :=
  c == ' ' || c == '\n' || c == '\t' || c == '\r'

/-- Drops the blanks at the start of a text. -/
def skipBlanks (input : List Char) : List Char :=
  input.dropWhile isBlank

/-! ### Texts -/

/-- One element of a quoted text: a character, or a code unit given by its number. -/
inductive TextUnit where
  | char (c : Char)
  | code (n : Nat)
  deriving DecidableEq

/-- The character that a one-letter escape stands for. -/
def shortEscape? : Char → Option Char
  | '"' => some '"'
  | '\\' => some '\\'
  | '/' => some '/'
  | 'b' => some '\x08'
  | 'f' => some '\x0c'
  | 'n' => some '\n'
  | 'r' => some '\r'
  | 't' => some '\t'
  | _ => none

/-- The elements of a text up to its closing quote, and what follows the quote. -/
def scanText : List Char → Option (List TextUnit × List Char)
  | [] => none
  | '"' :: rest => some ([], rest)
  | '\\' :: 'u' :: a :: b :: c :: d :: rest => do
    let code ← Digits.natural? 16 [a, b, c, d]
    let (units, rest) ← scanText rest
    return (.code code :: units, rest)
  | '\\' :: letter :: rest => do
    let c ← shortEscape? letter
    let (units, rest) ← scanText rest
    return (.char c :: units, rest)
  | c :: rest => do
    if c == '\\' || c.toNat < 32 then none
    let (units, rest) ← scanText rest
    return (.char c :: units, rest)

/-- Joins paired surrogates; a code unit of a pair that stands alone has no character. -/
def joinUnits : List TextUnit → Option (List Char)
  | [] => some []
  | .char c :: rest => (c :: ·) <$> joinUnits rest
  | .code high :: .code low :: rest =>
    if 0xD800 ≤ high ∧ high < 0xDC00 then
      if 0xDC00 ≤ low ∧ low < 0xE000 then
        let c := Char.ofNat (0x10000 + (high - 0xD800) * 0x400 + (low - 0xDC00))
        (c :: ·) <$> joinUnits rest
      else none
    else if 0xDC00 ≤ high ∧ high < 0xE000 then none
    else (Char.ofNat high :: ·) <$> joinUnits (.code low :: rest)
  | .code n :: rest =>
    if 0xD800 ≤ n ∧ n < 0xE000 then none else (Char.ofNat n :: ·) <$> joinUnits rest

/-- The text that a run of elements spells, if they pair up. -/
def spell? (units : List TextUnit) : Option String :=
  (joinUnits units).map String.ofList

/-! ### Numbers -/

/-- The value of a decimal digit. -/
def digit (c : Char) : Nat :=
  c.toNat - '0'.toNat

/-- The leading decimal digits of a text, and what follows them. -/
def scanDigits (input : List Char) : List Nat × List Char :=
  ((input.takeWhile Char.isDigit).map digit, input.dropWhile Char.isDigit)

/-- The digits of a fraction, which needs at least one, if a point announces it. -/
def scanFraction : List Char → Option (Option (List Nat) × List Char)
  | '.' :: rest =>
    match scanDigits rest with
    | ([], _) => none
    | (digits, rest) => some (some digits, rest)
  | input => some (none, input)

/-- The value of an exponent, which needs at least one digit, if a letter announces it. -/
def scanExponent (input : List Char) : Option (Option Int × List Char) :=
  match input with
  | 'e' :: rest | 'E' :: rest =>
    let (negative, rest) := match rest with
      | '+' :: rest => (false, rest)
      | '-' :: rest => (true, rest)
      | rest => (false, rest)
    match scanDigits rest with
    | ([], _) => none
    | (digits, rest) =>
      let value : Nat := digits.foldl (fun value digit => value * 10 + digit) 0
      some (some (if negative then -value else value), rest)
  | input => some (none, input)

/-- The tree of a numeral: an integer of at most 64 bits, and a real otherwise. -/
def numeralDatum (numeral : Numeral) (isReal : Bool) : Datum :=
  let value := numeral.wholeValue
  -- Negative zero and integers past 64 bits are kept as reals.
  if !isReal && !numeral.negative && value < UInt64.size then .integer value
  else if !isReal && numeral.negative && 0 < value && value ≤ Int64.minValue.toInt.natAbs then
    .integer (-value)
  else
    match numeral.real? with
    | some x => .real x
    | none => .unreadable

/-- A number and what follows it. -/
def scanNumber (input : List Char) : Option (Datum × List Char) := do
  let (negative, input) := match input with
    | '-' :: rest => (true, rest)
    | input => (false, input)
  let (whole, rest) ← match scanDigits input with
    | ([], _) => none
    -- A leading zero stands alone.
    | (0 :: _ :: _, _) => none
    | found => some found
  let (fraction, rest) ← scanFraction rest
  let (exponent, rest) ← scanExponent rest
  let numeral : Numeral := ⟨negative, whole, fraction.getD [], exponent.getD 0⟩
  return (numeralDatum numeral (fraction.isSome || exponent.isSome), rest)

/-! ### Values -/

/-- The input after a required character, blanks before it skipped. -/
def expect (c : Char) (input : List Char) : Option (List Char) :=
  match skipBlanks input with
  | found :: rest => if found == c then some rest else none
  | [] => none

/-- The record of a list of entries, which cannot be read when one of its names cannot. -/
def recordOf (entries : List (Option String × Datum)) : Datum :=
  match entries.mapM fun entry => entry.1.map (·, entry.2) with
  | some named => .record named
  | none => .unreadable

mutual

/-- A value and what follows it; the fuel bounds the number of characters looked at. -/
def scanValue : Nat → List Char → Option (Datum × List Char)
  | 0, _ => none
  | fuel + 1, input =>
    match skipBlanks input with
    | 'n' :: 'u' :: 'l' :: 'l' :: rest => some (.null, rest)
    | 't' :: 'r' :: 'u' :: 'e' :: rest => some (.boolean true, rest)
    | 'f' :: 'a' :: 'l' :: 's' :: 'e' :: rest => some (.boolean false, rest)
    | '"' :: rest => do
      let (units, rest) ← scanText rest
      return (((spell? units).map Datum.text).getD .unreadable, rest)
    | '[' :: rest =>
      match skipBlanks rest with
      | ']' :: rest => some (.list [], rest)
      | rest => do
        let (items, rest) ← scanItems fuel rest
        return (.list items, rest)
    | '{' :: rest =>
      match skipBlanks rest with
      | '}' :: rest => some (.record [], rest)
      | rest => do
        let (entries, rest) ← scanEntries fuel rest
        return (recordOf entries, rest)
    | input => scanNumber input

/-- The items of a list through its closing bracket. -/
def scanItems : Nat → List Char → Option (List Datum × List Char)
  | 0, _ => none
  | fuel + 1, input => do
    let (item, rest) ← scanValue fuel input
    match skipBlanks rest with
    | ']' :: rest => return ([item], rest)
    | ',' :: rest =>
      let (items, rest) ← scanItems fuel rest
      return (item :: items, rest)
    | _ => none

/-- The entries of a record through its closing brace. -/
def scanEntries : Nat → List Char → Option (List (Option String × Datum) × List Char)
  | 0, _ => none
  | fuel + 1, input => do
    let (units, rest) ← scanText (← expect '"' input)
    let (value, rest) ← scanValue fuel (← expect ':' rest)
    let entry := (spell? units, value)
    match skipBlanks rest with
    | '}' :: rest => return ([entry], rest)
    | ',' :: rest =>
      let (entries, rest) ← scanEntries fuel rest
      return (entry :: entries, rest)
    | _ => none

end

/-- The data tree of a JSON text, with nothing but blanks around the value. -/
def parse (input : String) : Option Datum := do
  let characters := input.toList
  let (value, rest) ← scanValue (characters.length + 1) characters
  if (skipBlanks rest).isEmpty then some value else none

/-- How many lists and records may be nested in a text. -/
def nestingLimit : Nat := 127

/-- Reads a value from a JSON text. -/
def readWith {α : Type} (read : Nat → Datum → Option α) (input : String) : Option α :=
  parse input >>= read nestingLimit

end TestPlan.Json
