import TestPlan.Member.Basic
import TestPlan.ValueType.Codec

/-! Member references as data. -/

namespace TestPlan

/-- The data of a field reference. -/
def FieldReference.toDatum (field : FieldReference) : Datum :=
  .record [("owner", .text field.owner), ("name", .text field.name),
    ("type", field.type.toDatum), ("is_static", .boolean field.isStatic)]

/-- Reads a field reference within the given room. -/
def FieldReference.read (held : Bool) : Nat → Datum → Option FieldReference
  | 0, _ => none
  | room + 1, datum => do
    let fields ← datum.fields ["owner", "name", "type", "is_static"]
    return {
      owner := ← fields.required "owner" Datum.asText
      name := ← fields.required "name" Datum.asText
      type := ← fields.required "type" (ValueType.read held room)
      isStatic := ← fields.withDefault "is_static" false Datum.asBoolean }

/-- The data of a method reference. -/
def MethodReference.toDatum (method : MethodReference) : Datum :=
  .record [("owner", .text method.owner), ("name", .text method.name),
    ("params", .list (method.params.map ValueType.toDatum)),
    ("returns", method.returns.toDatum), ("is_static", .boolean method.isStatic)]

/-- Reads a method reference within the given room. -/
def MethodReference.read (held : Bool) : Nat → Datum → Option MethodReference
  | 0, _ => none
  | room + 1, datum => do
    let fields ← datum.fields ["owner", "name", "params", "returns", "is_static"]
    return {
      owner := ← fields.required "owner" Datum.asText
      name := ← fields.required "name" Datum.asText
      params := ← fields.withDefault "params" [] (ValueType.readList held room)
      returns := ← fields.required "returns" (ValueType.read held room)
      isStatic := ← fields.withDefault "is_static" false Datum.asBoolean }

end TestPlan
