/-! Places in a YAML text, and the characters that divide it into words and lines. -/

namespace TestPlan.Yaml

/-! ### Characters -/

/-- Whether a character is a blank within a line. -/
def isBlank (c : Char) : Bool :=
  c == ' ' || c == '\t'

/-- Whether a character ends a line, once the line ends of all systems are line feeds. -/
def isBreak (c : Char) : Bool :=
  c == '\n' || c == '\u2028' || c == '\u2029'

/-- Whether a character separates words or lines. -/
def isGap (c : Char) : Bool :=
  isBlank c || isBreak c

/-- Whether a text starts with a blank, a line end or nothing. -/
def startsGap : List Char → Bool
  | [] => true
  | c :: _ => isGap c

/-- Whether a character delimits flow collections. -/
def isFlowIndicator (c : Char) : Bool :=
  c == ',' || c == '[' || c == ']' || c == '{' || c == '}'

/-- Whether a character may stand in the name of a node, a tag handle or a directive. -/
def isNameCharacter (c : Char) : Bool :=
  c.isAlphanum || c == '_' || c == '-'

/-- Whether a text starts with a mark of three equal characters and a gap. -/
def startsMarker (mark : Char) : List Char → Bool
  | a :: b :: c :: rest => a == mark && b == mark && c == mark && startsGap rest
  | _ => false

/-- A text in which all line ends but the separators of lines and paragraphs are line feeds. -/
def unifyLineEnds : List Char → List Char
  | '\r' :: '\n' :: rest | '\r' :: rest | '\u0085' :: rest => '\n' :: unifyLineEnds rest
  | c :: rest => c :: unifyLineEnds rest
  | [] => []

/-- Whether a character may stand in a text at all. -/
def isAllowed (c : Char) : Bool :=
  let code := c.toNat
  c == '\t' || c == '\n' || c == '\r' || (32 ≤ code && code < 127) || code == 133
    || (160 ≤ code && code != 65534 && code != 65535)

/-! ### Places -/

/-- A place in a text. -/
structure Place where
  /-- The text from here on. -/
  rest : List Char
  /-- The number of bytes before. -/
  index : Nat := 0
  line : Nat := 0
  column : Nat := 0

namespace Place

/-- The place after the next character. -/
def pass (place : Place) (c : Char) : Place :=
  let index := place.index + c.utf8Size
  if isBreak c then ⟨place.rest.tail, index, place.line + 1, 0⟩
  else ⟨place.rest.tail, index, place.line, place.column + 1⟩

/-- The place after a text that starts here. -/
def passAll (place : Place) (text : List Char) : Place :=
  text.foldl pass place

/-- The place after so many characters. -/
def skip (place : Place) (count : Nat) : Place :=
  place.passAll (place.rest.take count)

/-- The place from which on a text is left. -/
def upTo (place : Place) (rest : List Char) : Place :=
  place.skip (place.rest.length - rest.length)

/-- The next character, if there is one. -/
def next? (place : Place) : Option Char :=
  place.rest.head?

/-- Whether a mark between documents stands here. -/
def atMarker (place : Place) : Bool :=
  place.column == 0 && (startsMarker '-' place.rest || startsMarker '.' place.rest)

end Place

end TestPlan.Yaml
