import TestPlan.Data.Toml.Scalar
import TestPlan.Data.Toml.Table

/-! Reading TOML text into a data tree. -/

namespace TestPlan.Toml

/-- Whether a character is a blank within a line. -/
def isBlank (c : Char) : Bool :=
  c == ' ' || c == '\t'

/-- Drops the blanks at the start of a text. -/
def skipBlanks (input : List Char) : List Char :=
  input.dropWhile isBlank

/-- Whether a character may stand as it is in a comment or a literal text. -/
def isPrintable (c : Char) : Bool :=
  c == '\t' || (32 ≤ c.toNat && c.toNat != 127)

/-- Drops a comment at the start of a text. -/
def skipComment (input : List Char) : List Char :=
  match input with
  | '#' :: rest => rest.dropWhile isPrintable
  | input => input

/-- The text after a line end, if it starts with one. -/
def newline? : List Char → Option (List Char)
  | '\n' :: rest => some rest
  | '\r' :: '\n' :: rest => some rest
  | _ => none

/-- Drops blanks, comments and line ends at the start of a text. -/
def skipLines : Nat → List Char → List Char
  | 0, input => input
  | fuel + 1, input =>
    let input := skipComment (skipBlanks input)
    match newline? input with
    | some rest => skipLines fuel rest
    | none => input

/-- Drops blanks and line ends at the start of a text. -/
def skipSpace : Nat → List Char → List Char
  | 0, input => input
  | fuel + 1, input =>
    let input := skipBlanks input
    match newline? input with
    | some rest => skipSpace fuel rest
    | none => input

/-! ### Texts -/

/-- The character that an escape stands for, and what follows the escape. -/
def scanEscape : List Char → Option (Char × List Char)
  | 'b' :: rest => some ('\x08', rest)
  | 't' :: rest => some ('\t', rest)
  | 'n' :: rest => some ('\n', rest)
  | 'f' :: rest => some ('\x0c', rest)
  | 'r' :: rest => some ('\r', rest)
  | '"' :: rest => some ('"', rest)
  | '\\' :: rest => some ('\\', rest)
  | 'u' :: rest => scalar 4 rest
  | 'U' :: rest => scalar 8 rest
  | _ => none
where
  /-- A character given by its number, which must not be a surrogate. -/
  scalar (width : Nat) (rest : List Char) : Option (Char × List Char) := do
    if (rest.take width).length < width then none
    let code ← Digits.natural? 16 (rest.take width)
    if code.isValidChar then some (Char.ofNat code, rest.drop width) else none

/-- The rest of a one-line text with escapes. -/
def scanBasic : Nat → List Char → Option (List Char × List Char)
  | 0, _ => none
  | _ + 1, '"' :: rest => some ([], rest)
  | fuel + 1, '\\' :: rest => do
    let (c, rest) ← scanEscape rest
    let (text, rest) ← scanBasic fuel rest
    return (c :: text, rest)
  | fuel + 1, c :: rest => do
    if !isPrintable c then none
    let (text, rest) ← scanBasic fuel rest
    return (c :: text, rest)
  | _ + 1, [] => none

/-- The rest of a one-line text without escapes. -/
def scanLiteral : List Char → Option (List Char × List Char)
  | [] => none
  | '\'' :: rest => some ([], rest)
  | c :: rest => do
    if !isPrintable c then none
    let (text, rest) ← scanLiteral rest
    return (c :: text, rest)

/-- Where a text of several lines ends: three quotes, before which up to two may stand. -/
def closing? (quote : Char) (input : List Char) : Option (List Char × List Char) :=
  let quotes := (input.takeWhile (· == quote)).length
  if 3 ≤ quotes ∧ quotes ≤ 5 then
    some (List.replicate (quotes - 3) quote, input.drop quotes)
  else none

/-- The rest of a text of several lines, with or without escapes. -/
def scanLong (quote : Char) (escapes : Bool) : Nat → List Char → Option (List Char × List Char)
  | 0, _ => none
  | fuel + 1, input =>
    match closing? quote input with
    | some closed => some closed
    | none =>
      if 5 < (input.takeWhile (· == quote)).length then none
      else
        match newline? input, input with
        | some rest, _ => do
          let (text, rest) ← scanLong quote escapes fuel rest
          return ('\n' :: text, rest)
        | none, '\\' :: rest =>
          if !escapes then do
            let (text, rest) ← scanLong quote escapes fuel rest
            return ('\\' :: text, rest)
          else
            match newline? (skipBlanks rest) with
            | some rest =>
              -- A backslash at the end of a line drops all blanks and line ends after it.
              scanLong quote escapes fuel (skipSpace fuel rest)
            | none => do
              let (c, rest) ← scanEscape rest
              let (text, rest) ← scanLong quote escapes fuel rest
              return (c :: text, rest)
        | none, c :: rest => do
          if !isPrintable c then none
          let (text, rest) ← scanLong quote escapes fuel rest
          return (c :: text, rest)
        | none, [] => none

/-- Drops the line end that may follow the opening quotes of a text of several lines. -/
def skipFirstNewline (input : List Char) : List Char :=
  (newline? input).getD input

/-- A quoted text, if one starts here. -/
def scanText (fuel : Nat) : List Char → Option (String × List Char)
  | '"' :: '"' :: '"' :: rest =>
    (scanLong '"' true fuel (skipFirstNewline rest)).map fun (text, rest) =>
      (String.ofList text, rest)
  | '\'' :: '\'' :: '\'' :: rest =>
    (scanLong '\'' false fuel (skipFirstNewline rest)).map fun (text, rest) =>
      (String.ofList text, rest)
  | '"' :: rest => (scanBasic fuel rest).map fun (text, rest) => (String.ofList text, rest)
  | '\'' :: rest => (scanLiteral rest).map fun (text, rest) => (String.ofList text, rest)
  | _ => none

/-! ### Keys -/

/-- Whether a character may stand in a key without quotes. -/
def isBare (c : Char) : Bool :=
  ('a' ≤ c && c ≤ 'z') || ('A' ≤ c && c ≤ 'Z') || c.isDigit || c == '_' || c == '-'

/-- One part of a key. -/
def scanSimpleKey (fuel : Nat) (input : List Char) : Option (String × List Char) :=
  match input with
  | '"' :: rest => (scanBasic fuel rest).map fun (text, rest) => (String.ofList text, rest)
  | '\'' :: rest => (scanLiteral rest).map fun (text, rest) => (String.ofList text, rest)
  | input =>
    match input.takeWhile isBare with
    | [] => none
    | bare => some (String.ofList bare, input.dropWhile isBare)

/-- Parts joined by dots, and the blanks after them dropped. -/
def scanPath : Nat → List Char → Option (List String × List Char)
  | 0, _ => none
  | fuel + 1, input => do
    let (key, rest) ← scanSimpleKey (fuel + 1) (skipBlanks input)
    match skipBlanks rest with
    | '.' :: rest =>
      let (path, rest) ← scanPath fuel rest
      return (key :: path, rest)
    | rest => return ([key], rest)

/-- Keys have fewer parts than this, and values are nested less deeply. -/
def depthLimit : Nat := 80

/-- A key of one or more parts, and the blanks after it dropped. -/
def scanKey (fuel : Nat) (input : List Char) : Option (List String × List Char) := do
  let (path, rest) ← scanPath fuel input
  if path.length < depthLimit then some (path, rest) else none

/-! ### Values -/

/-- Whether a character may stand in a value without quotes. -/
def isTokenCharacter (c : Char) : Bool :=
  isBare c || c == '+' || c == '.' || c == ':'

/-- A value without quotes or brackets. -/
def scanToken (input : List Char) : Option (Datum × List Char) :=
  let token := input.takeWhile isTokenCharacter
  let rest := input.dropWhile isTokenCharacter
  match (date? token).isSome, rest with
  -- A blank may stand between a date and a time.
  | true, ' ' :: a :: b :: ':' :: after =>
    if a.isDigit && b.isDigit then
      let clock := a :: b :: ':' :: after
      let all := token ++ ' ' :: clock.takeWhile isTokenCharacter
      (bareValue? all).map (·, clock.dropWhile isTokenCharacter)
    else (bareValue? token).map (·, rest)
  | _, _ => (bareValue? token).map (·, rest)

mutual

/-- A value and what follows it, inside so many others; the fuel bounds the number of characters
looked at. -/
def scanValue : Nat → Nat → List Char → Option (Datum × List Char)
  | 0, _, _ => none
  | fuel + 1, depth, input =>
    match input with
    | '[' :: rest =>
      if depthLimit ≤ depth + 1 then none
      else
        match skipLines fuel rest with
        | ']' :: rest => some (.list [], rest)
        | rest => do
          let (items, rest) ← scanItems fuel (depth + 1) rest
          return (.list items, rest)
    | '{' :: rest =>
      if depthLimit ≤ depth + 1 then none
      else
        match skipBlanks rest with
        | '}' :: rest => some (.record [], rest)
        | rest => do
          let (table, rest) ← scanPairs fuel (depth + 1) .empty rest
          return (table.toDatum, rest)
    | '"' :: _ | '\'' :: _ => do
      let (text, rest) ← scanText (fuel + 1) input
      return (.text text, rest)
    | input => scanToken input

/-- The items of an array through its closing bracket. -/
def scanItems : Nat → Nat → List Char → Option (List Datum × List Char)
  | 0, _, _ => none
  | fuel + 1, depth, input => do
    let (item, rest) ← scanValue fuel depth input
    match skipLines fuel rest with
    | ']' :: rest => return ([item], rest)
    | ',' :: rest =>
      match skipLines fuel rest with
      | ']' :: rest => return ([item], rest)
      | rest =>
        let (items, rest) ← scanItems fuel depth rest
        return (item :: items, rest)
    | _ => none

/-- The pairs of an inline table through its closing brace, added to those before them. -/
def scanPairs : Nat → Nat → Table → List Char → Option (Table × List Char)
  | 0, _, _, _ => none
  | fuel + 1, depth, table, input => do
    let (path, rest) ← scanKey (fuel + 1) input
    match rest with
    | '=' :: rest =>
      let (datum, rest) ← scanValue fuel depth (skipBlanks rest)
      let table ← table.addValue path datum
      match skipBlanks rest with
      | '}' :: rest => return (table, rest)
      | ',' :: rest => scanPairs fuel depth table rest
      | _ => none
    | _ => none

end

/-! ### Documents -/

/-- The text after the end of a line, before which only blanks and a comment may stand. -/
def scanLineEnd (input : List Char) : Option (List Char) :=
  match skipComment (skipBlanks input) with
  | [] => some []
  | rest => newline? rest

/-- Reads lines into the document, where `current` is the path of the last header. -/
def scanDocument : Nat → List String → Table → List Char → Option Table
  | 0, _, _, _ => none
  | fuel + 1, current, root, input =>
    match skipLines (fuel + 1) input with
    | [] => some root
    | '[' :: '[' :: rest => do
      let (path, rest) ← scanKey (fuel + 1) rest
      match rest with
      | ']' :: ']' :: rest => scanDocument fuel path (← root.openItem path) (← scanLineEnd rest)
      | _ => none
    | '[' :: rest => do
      let (path, rest) ← scanKey (fuel + 1) rest
      match rest with
      | ']' :: rest => scanDocument fuel path (← root.openTable path) (← scanLineEnd rest)
      | _ => none
    | input => do
      let (path, rest) ← scanKey (fuel + 1) input
      match rest with
      | '=' :: rest =>
        let (datum, rest) ← scanValue fuel 0 (skipBlanks rest)
        let root ← root.descend false current (·.addValue path datum)
        scanDocument fuel current root (← scanLineEnd rest)
      | _ => none

/-- The data tree of a TOML text. -/
def parse (input : String) : Option Datum := do
  let characters := match input.toList with
    -- A byte order mark may open the text.
    | '\uFEFF' :: rest => rest
    | all => all
  let root ← scanDocument (characters.length + 2) [] .empty characters
  return root.toDatum

end TestPlan.Toml
