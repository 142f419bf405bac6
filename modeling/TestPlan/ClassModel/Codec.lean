import TestPlan.ClassModel.Basic
import TestPlan.Data.Datum

/-! Class definitions as data. -/

namespace TestPlan

/-- The data of a list of texts. -/
def textsDatum (texts : List String) : Datum :=
  .list (texts.map .text)

/-- Reads a list of texts within the given room. -/
def readTexts : Nat → Datum → Option (List String)
  | 0, _ => none
  | _ + 1, datum => datum.asList Datum.asText

namespace ClassKind

/-- The name of a sort of class. -/
def name : ClassKind → String
  | .object => "class"
  | .interface => "interface"
  | .enumeration => "enum"

/-- Reads the name of a sort of class. -/
def read (room : Nat) (datum : Datum) : Option ClassKind := do
  let name ← datum.unitVariant? false room
  [ClassKind.object, .interface, .enumeration].find? (·.name == name)

end ClassKind

namespace ConstructorDefinition

/-- The data of a constructor. -/
def toDatum (definition : ConstructorDefinition) : Datum :=
  .record [("params", textsDatum definition.params)]

/-- Reads a constructor within the given room. -/
def read : Nat → Datum → Option ConstructorDefinition
  | 0, _ => none
  | room + 1, datum => do
    let fields ← datum.fields ["params"]
    return { params := ← fields.withDefault "params" [] (readTexts room) }

end ConstructorDefinition

namespace MethodDefinition

/-- The data of a method. -/
def toDatum (definition : MethodDefinition) : Datum :=
  .record [("name", .text definition.name), ("params", textsDatum definition.params),
    ("returns", .text definition.returns), ("is_static", .boolean definition.isStatic)]

/-- Reads a method within the given room. -/
def read : Nat → Datum → Option MethodDefinition
  | 0, _ => none
  | room + 1, datum => do
    let fields ← datum.fields ["name", "params", "returns", "is_static"]
    return {
      name := ← fields.required "name" Datum.asText
      params := ← fields.withDefault "params" [] (readTexts room)
      returns := ← fields.withDefault "returns" "void" Datum.asText
      isStatic := ← fields.withDefault "is_static" false Datum.asBoolean }

end MethodDefinition

namespace FieldDefinition

/-- The data of a field. -/
def toDatum (definition : FieldDefinition) : Datum :=
  .record [("name", .text definition.name), ("type", .text definition.type),
    ("is_static", .boolean definition.isStatic)]

/-- Reads a field within the given room. -/
def read : Nat → Datum → Option FieldDefinition
  | 0, _ => none
  | _ + 1, datum => do
    let fields ← datum.fields ["name", "type", "is_static"]
    return {
      name := ← fields.required "name" Datum.asText
      type := ← fields.required "type" Datum.asText
      isStatic := ← fields.withDefault "is_static" false Datum.asBoolean }

end FieldDefinition

/-- Reads a list of values within the given room. -/
def readListOf {α : Type} (read : Nat → Datum → Option α) : Nat → Datum → Option (List α)
  | 0, _ => none
  | room + 1, datum => datum.asList (read room)

namespace ClassDefinition

/-- The data of a class. -/
def toDatum (definition : ClassDefinition) : Datum :=
  .record [("name", .text definition.name), ("kind", .text definition.kind.name),
    ("superclass", .ofOption .text definition.superclass),
    ("constructors", .list (definition.constructors.map ConstructorDefinition.toDatum)),
    ("methods", .list (definition.methods.map MethodDefinition.toDatum)),
    ("fields", .list (definition.fields.map FieldDefinition.toDatum)),
    ("enum_constants", textsDatum definition.enumConstants)]

/-- Reads a class within the given room. -/
def read : Nat → Datum → Option ClassDefinition
  | 0, _ => none
  | room + 1, datum => do
    let fields ← datum.fields
      ["name", "kind", "superclass", "constructors", "methods", "fields", "enum_constants"]
    return {
      name := ← fields.required "name" Datum.asText
      kind := ← fields.withDefault "kind" .object (ClassKind.read room)
      superclass := ← fields.withDefault "superclass" none (Datum.asOption Datum.asText)
      constructors := ← fields.withDefault "constructors" []
        (readListOf ConstructorDefinition.read room)
      methods := ← fields.withDefault "methods" [] (readListOf MethodDefinition.read room)
      fields := ← fields.withDefault "fields" [] (readListOf FieldDefinition.read room)
      enumConstants := ← fields.withDefault "enum_constants" [] (readTexts room) }

end ClassDefinition

end TestPlan
