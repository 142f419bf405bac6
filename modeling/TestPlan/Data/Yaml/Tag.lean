import TestPlan.Data.Yaml.Place
import TestPlan.Number.Digits

/-! Tags and directives of YAML: what is written before a node, and before a document. -/

namespace TestPlan.Yaml

/-! ### Resource names -/

/-- Whether a character may stand in a resource name; inside angle brackets some more may. -/
def isResourceCharacter (enclosed : Bool) (c : Char) : Bool :=
  isNameCharacter c || ";/?:@&=+$.%!~*'()".toList.contains c
    || (enclosed && (c == ',' || c == '[' || c == ']'))

/-- Octets and the text after them, where every octet is kept as a character of its own. -/
abbrev Octets := List Char × List Char

/-- An octet given by a percent sign and two hexadecimal digits. -/
def scanOctet : List Char → Option (Nat × List Char)
  | '%' :: high :: low :: rest => (Digits.natural? 16 [high, low]).map (·, rest)
  | _ => none

/-- So many octets that continue an encoded character. -/
def scanContinuation : Nat → List Char → Option Octets
  | 0, rest => some ([], rest)
  | count + 1, rest => do
    let (octet, rest) ← scanOctet rest
    if octet / 64 ≠ 2 then none
    let (octets, rest) ← scanContinuation count rest
    return (Char.ofNat octet :: octets, rest)

/-- A character encoded by octets, of which the first gives the number. -/
def scanEncoded (rest : List Char) : Option Octets := do
  let (octet, rest) ← scanOctet rest
  let count ←
    if octet < 0x80 then some 0
    else if octet / 32 = 6 then some 1
    else if octet / 16 = 14 then some 2
    else if octet / 8 = 30 then some 3
    else none
  let (octets, rest) ← scanContinuation count rest
  return (Char.ofNat octet :: octets, rest)

/-- The characters of a resource name from here on. -/
def scanResourceCharacters (enclosed : Bool) : Nat → List Char → Option Octets
  | 0, _ => none
  | _ + 1, [] => some ([], [])
  | fuel + 1, c :: rest =>
    if !isResourceCharacter enclosed c then some ([], c :: rest)
    else do
      let (octets, rest) ← if c == '%' then scanEncoded (c :: rest) else some ([c], rest)
      let (more, rest) ← scanResourceCharacters enclosed fuel rest
      return (octets ++ more, rest)

/-- A resource name; what follows a zero octet in it does not count. -/
def scanResource (enclosed : Bool) (rest : List Char) : Option (String × List Char) := do
  let (octets, rest) ← scanResourceCharacters enclosed (rest.length + 1) rest
  return (String.ofList (octets.takeWhile (· != '\x00')), rest)

/-! ### Tags -/

/-- A tag as it is written: a handle, for which a directive may stand, and what is added to it. -/
structure WrittenTag where
  handle : String
  suffix : String

/-- The exclamation mark and name that a handle may be, and whether a second mark ends it. -/
def scanHandle (rest : List Char) : List Char × Bool × List Char :=
  let name := rest.takeWhile isNameCharacter
  match rest.drop name.length with
  | '!' :: after => ('!' :: name ++ ['!'], true, after)
  | after => ('!' :: name, false, after)

/-- Whether the tag before a text is complete. -/
def endsTag (flow : Bool) (rest : List Char) : Bool :=
  startsGap rest || (flow && rest.head? == some ',')

/-- The tag after an exclamation mark. -/
def scanTag (flow : Bool) (rest : List Char) : Option (WrittenTag × List Char) := do
  let (tag, rest) ← match rest with
    | '<' :: rest => do
      let (name, after) ← scanResource true rest
      if rest.length ≤ after.length then none
      match after with
      | '>' :: after => some (⟨"", name⟩, after)
      | _ => none
    | rest => do
      let (handle, closed, after) := scanHandle rest
      let (suffix, left) ← scanResource false after
      if closed then
        if after.length ≤ left.length then none
        some (⟨String.ofList handle, suffix⟩, left)
      else
        let suffix := String.ofList (handle.drop 1) ++ suffix
        -- A single mark names no type.
        some (if suffix.isEmpty then ⟨"", "!"⟩ else ⟨"!", suffix⟩, left)
  if endsTag flow rest then some (tag, rest) else none

/-! ### Directives -/

/-- A line before a document that says how to read it. -/
inductive Directive where
  | version (major minor : Nat)
  | handle (name expansion : String)

/-- A version number of at most nine digits. -/
def scanVersionPart (rest : List Char) : Option (Nat × List Char) :=
  let digits := rest.takeWhile Char.isDigit
  if 9 < digits.length then none
  else (Digits.natural? 10 digits).map (·, rest.drop digits.length)

/-- The version that a directive gives. -/
def scanVersion (rest : List Char) : Option (Directive × List Char) := do
  let (major, rest) ← scanVersionPart (rest.dropWhile isBlank)
  match rest with
  | '.' :: rest =>
    let (minor, rest) ← scanVersionPart rest
    return (.version major minor, rest)
  | _ => none

/-- The handle that a directive explains. -/
def scanExpansion (rest : List Char) : Option (Directive × List Char) := do
  match rest.dropWhile isBlank with
  | '!' :: rest =>
    let (handle, closed, rest) := scanHandle rest
    if !closed && handle != ['!'] then none
    if !rest.head?.any isBlank then none
    let rest := rest.dropWhile isBlank
    let (expansion, after) ← scanResource true rest
    if rest.length ≤ after.length || !startsGap after then none
    return (.handle (String.ofList handle) expansion, after)
  | _ => none

/-- The directive after a percent sign, up to the end of its line. -/
def scanDirective (rest : List Char) : Option (Directive × List Char) := do
  let name := rest.takeWhile isNameCharacter
  let rest := rest.drop name.length
  if !startsGap rest then none
  let (directive, rest) ←
    if name = "YAML".toList then scanVersion rest
    else if name = "TAG".toList then scanExpansion rest
    else none
  let rest := rest.dropWhile isBlank
  let rest := if rest.head? == some '#' then rest.dropWhile (!isBreak ·) else rest
  if rest.head?.all isBreak then some (directive, rest) else none

end TestPlan.Yaml
