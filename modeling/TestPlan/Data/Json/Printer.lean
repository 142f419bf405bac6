import TestPlan.Data.Datum
import TestPlan.Number.Shortest

/-! Writing data trees as JSON text, on one line or indented. -/

namespace TestPlan.Json

/-- The lower-case hexadecimal digits of a number, padded to a width. -/
def hex (width n : Nat) : String :=
  let digits := Nat.toDigits 16 n
  String.ofList (List.replicate (width - digits.length) '0' ++ digits)

/-- A character as it stands inside a quoted text. -/
def escape (c : Char) : String :=
  match c with
  | '"' => "\\\""
  | '\\' => "\\\\"
  | '\x08' => "\\b"
  | '\x0c' => "\\f"
  | '\n' => "\\n"
  | '\r' => "\\r"
  | '\t' => "\\t"
  | c => if c.toNat < 32 then "\\u" ++ hex 4 c.toNat else c.toString

/-- A quoted text. -/
def quote (text : String) : String :=
  "\"" ++ String.join (text.toList.map escape) ++ "\""

/-- How the parts of a value are set out on lines. -/
structure Layout where
  /-- What starts a line at a nesting level, when each part has a line of its own. -/
  lineStart : Nat → String
  /-- What separates a name from its value. -/
  afterName : String

/-- All on one line, without blanks. -/
def Layout.compact : Layout := ⟨fun _ => "", ":"⟩

/-- Each part on a line of its own, indented by two blanks for each level. -/
def Layout.indented : Layout :=
  ⟨fun level => "\n" ++ String.ofList (List.replicate (2 * level) ' '), ": "⟩

mutual

/-- A value set out at a nesting level; what is no number is written as null. -/
def render (layout : Layout) (level : Nat) : Datum → String
  | .null | .unreadable => "null"
  | .boolean value => if value then "true" else "false"
  | .integer value => toString value
  | .real value => if value.isFinite then Shortest.text value else "null"
  | .text value => quote value
  | .scalar scalar => quote scalar.text
  | .list [] => "[]"
  | .list (item :: rest) =>
    "[" ++ layout.lineStart (level + 1) ++ render layout (level + 1) item
      ++ renderItems layout (level + 1) rest ++ layout.lineStart level ++ "]"
  | .record [] => "\x7b\x7d"
  | .record ((name, value) :: rest) =>
    "\x7b" ++ layout.lineStart (level + 1) ++ quote name ++ layout.afterName
      ++ render layout (level + 1) value
      ++ renderEntries layout (level + 1) rest ++ layout.lineStart level ++ "\x7d"

/-- The items after the first. -/
def renderItems (layout : Layout) (level : Nat) : List Datum → String
  | [] => ""
  | item :: rest =>
    "," ++ layout.lineStart level ++ render layout level item ++ renderItems layout level rest

/-- The entries after the first. -/
def renderEntries (layout : Layout) (level : Nat) : List (String × Datum) → String
  | [] => ""
  | (name, value) :: rest =>
    "," ++ layout.lineStart level ++ quote name ++ layout.afterName
      ++ render layout level value ++ renderEntries layout level rest

end

/-- A value on one line. -/
def compact (value : Datum) : String :=
  render .compact 0 value

/-- A value with each part on a line of its own. -/
def indented (value : Datum) : String :=
  render .indented 0 value

end TestPlan.Json
