import TestPlan.Data.Datum
import TestPlan.ValueType.Basic

/-! Value types as data: a record of a kind and, for all but void, what the type is of. -/

namespace TestPlan

/-- Reads the keyword of a primitive type. -/
def Primitive.read (held : Bool) (room : Nat) (datum : Datum) : Option Primitive :=
  datum.unitVariant? held room >>= Primitive.ofKeyword?

namespace ValueType

/-- The data of a type. -/
def toDatum : ValueType → Datum
  | .void => .record [("kind", .text "void")]
  | .primitive type => .record [("kind", .text "primitive"), ("of", .text type.keyword)]
  | .object className => .record [("kind", .text "class"), ("of", .text className)]
  | .array component => .record [("kind", .text "array"), ("of", component.toDatum)]

/-- Reads a type within the given room. -/
def read (held : Bool) : Nat → Datum → Option ValueType
  | 0, _ => none
  | room + 1, datum => do
    let found ← datum.tagged? "kind" "of"
    let kind ← found.tag.unitVariant? held room
    match found.content with
    | none => if kind = "void" then some .void else none
    | some content =>
      -- Content met before its tag is held until the tag is known.
      if found.contentFirst && !content.canBeHeld room then none
      else
        let held := held || found.contentFirst
        match kind with
        | "void" => if content.isUnit false then some .void else none
        | "primitive" => .primitive <$> Primitive.read held room content
        | "class" => .object <$> content.asText
        | "array" => .array <$> read held room content
        | _ => none

/-- Reads a list of types within the given room. -/
def readList (held : Bool) : Nat → Datum → Option (List ValueType)
  | 0, _ => none
  | room + 1, datum => datum.asList (read held room)

end ValueType

end TestPlan
