import TestPlan.ClassModel.Codec
import TestPlan.Data.Json.Printer
import TestPlan.TestCase.Basic

/-!
Statements as data. Long integers are written as texts and floating-point constants as the
digits of their bits, so that no reader of numbers can change them.
-/

namespace TestPlan

/-! ### Classes and types -/

namespace Layer

/-- The name of a layer in data. -/
def name : Layer → String
  | .instrumented => "instrumented"
  | .runtime => "runtime"
  | .host => "host"

/-- The layer with a name. -/
def ofName? (name : String) : Option Layer :=
  [Layer.instrumented, .runtime, .host].find? (·.name == name)

end Layer

namespace ClassHandle

/-- The data of a class identity: name and layer. -/
def toDatum (handle : ClassHandle) : Datum :=
  .list [.text handle.name, .text handle.origin.name]

/-- Reads a class identity. -/
def read : Datum → Option ClassHandle
  | .list [.text name, .text origin] => (⟨name, ·⟩) <$> Layer.ofName? origin
  | _ => none

end ClassHandle

namespace RuntimeType

/-- The array levels of a type, and the type of the innermost elements. -/
def levels : RuntimeType → Nat × RuntimeType
  | .array component =>
    let (count, element) := component.levels
    (count + 1, element)
  | type => (0, type)

/-- The parts of a type as data. -/
def parts (type : RuntimeType) : List (String × Datum) :=
  let (count, element) := type.levels
  let base := match element with
    | .primitive type => [("base", .text "primitive"), ("name", .text type.keyword)]
    | .object handle => [("base", .text "class"), ("class", handle.toDatum)]
    | _ => [("base", Datum.text "void")]
  [("dims", .integer count), ("type_name", .text type.typeName)] ++ base

/-- The data of a type. -/
def toDatum (type : RuntimeType) : Datum :=
  .record type.parts

/-- Reads a type; the number of its array levels may be left out when it is zero. -/
def read (datum : Datum) : Option RuntimeType := do
  let count := (← datum.optionalPart "dims" Datum.asNatural).getD 0
  let element ← match ← datum.part? "base" >>= Datum.asText with
    | "void" => some void
    | "primitive" => do
      let keyword ← datum.part? "name" >>= Datum.asText
      primitive <$> Primitive.ofKeyword? keyword
    | "class" => object <$> (datum.part? "class" >>= ClassHandle.read)
    | _ => none
  return count.repeat array element

end RuntimeType

/-! ### Operands -/

/-- The data of a variable: its index. -/
def Var.toDatum (var : Var) : Datum :=
  .integer var.index

/-- Reads a variable. -/
def Var.read (datum : Datum) : Option Var :=
  (⟨·⟩) <$> datum.asNatural

namespace Constant

/-- The data of a constant: a record of its type and value. -/
def toDatum : Constant → Datum
  | .boolean value => .record [("boolean", .boolean value)]
  | .byte value => .record [("byte", .integer value.toInt)]
  | .char value => .record [("char", .integer value.toNat)]
  | .short value => .record [("short", .integer value.toInt)]
  | .int value => .record [("int", .integer value.toInt)]
  | .long value => .record [("long", .text (toString value.toInt))]
  | .float value => .record [("float", .text (Json.hex 8 value.bits.toNat))]
  | .double value => .record [("double", .text (Json.hex 16 value.bits.toNat))]
  | .text value => .record [("string", .text value)]
  | .classObject type => .record [("class", type.toDatum)]
  | .enumConstant enumClass name =>
    .record [("enum", .list [enumClass.toDatum, .text name])]

/-- Reads so many hexadecimal digits. -/
def readBits (width : Nat) (datum : Datum) : Option Nat := do
  let digits := (← datum.asText).toList
  if digits.length = width then Digits.natural? 16 digits else none

/-- Reads a decimal text whose value fits 64 bits with a sign. -/
def readLong (datum : Datum) : Option Int64 := do
  let value ← Digits.integer? (← datum.asText)
  if Int64.minValue.toInt ≤ value ∧ value ≤ Int64.maxValue.toInt then some (.ofInt value)
  else none

/-- Reads a constant. -/
def read : Datum → Option Constant
  | .record [("boolean", value)] => boolean <$> value.asBoolean
  | .record [("byte", value)] =>
    (byte <| .ofInt ·) <$> value.asIntegerIn Int8.minValue.toInt Int8.maxValue.toInt
  | .record [("char", value)] =>
    (char <| .ofNat ·.toNat) <$> value.asIntegerIn 0 (UInt16.size - 1)
  | .record [("short", value)] =>
    (short <| .ofInt ·) <$> value.asIntegerIn Int16.minValue.toInt Int16.maxValue.toInt
  | .record [("int", value)] =>
    (int <| .ofInt ·) <$> value.asIntegerIn Int32.minValue.toInt Int32.maxValue.toInt
  | .record [("long", value)] => long <$> readLong value
  | .record [("float", value)] => (float ⟨.ofNat ·⟩) <$> readBits 8 value
  | .record [("double", value)] => (double ⟨.ofNat ·⟩) <$> readBits 16 value
  | .record [("string", value)] => text <$> value.asText
  | .record [("class", type)] => classObject <$> RuntimeType.read type
  | .record [("enum", .list [handle, .text name])] =>
    (enumConstant · name) <$> ClassHandle.read handle
  | _ => none

end Constant

namespace Operand

/-- The data of an operand. -/
def toDatum : Operand → Datum
  | .var source => .record [("var", source.toDatum)]
  | .constant value => .record [("const", value.toDatum)]

/-- Reads an operand. -/
def read : Datum → Option Operand
  | .record [("var", source)] => var <$> Var.read source
  | .record [("const", value)] => constant <$> Constant.read value
  | _ => none

end Operand

/-! ### Members -/

/-- Reads a list of texts that may be absent. -/
def readTextsPart (datum : Datum) (name : String) : Option (List String) :=
  (·.getD []) <$> datum.optionalPart name (Datum.asList Datum.asText)

/-- Reads a truth value that is false when absent. -/
def readFlagPart (datum : Datum) (name : String) : Option Bool :=
  (·.getD false) <$> datum.optionalPart name Datum.asBoolean

namespace ConstructorHandle

/-- The data of a resolved constructor. -/
def toDatum (handle : ConstructorHandle) : Datum :=
  .record [("class", handle.declaring.toDatum), ("params", textsDatum handle.params)]

/-- Reads a resolved constructor. -/
def read (datum : Datum) : Option ConstructorHandle := do
  return ⟨← datum.part? "class" >>= ClassHandle.read, ← readTextsPart datum "params"⟩

end ConstructorHandle

namespace MethodHandle

/-- The data of a resolved method. -/
def toDatum (handle : MethodHandle) : Datum :=
  .record [("class", handle.declaring.toDatum), ("name", .text handle.name),
    ("params", textsDatum handle.params), ("returns", .text handle.returns),
    ("is_static", .boolean handle.isStatic)]

/-- Reads a resolved method. -/
def read (datum : Datum) : Option MethodHandle := do
  return ⟨← datum.part? "class" >>= ClassHandle.read, ← datum.part? "name" >>= Datum.asText,
    ← readTextsPart datum "params", ← datum.part? "returns" >>= Datum.asText,
    ← readFlagPart datum "is_static"⟩

end MethodHandle

namespace FieldHandle

/-- The data of a resolved field. -/
def toDatum (handle : FieldHandle) : Datum :=
  .record [("class", handle.declaring.toDatum), ("name", .text handle.name),
    ("type", .text handle.type), ("is_static", .boolean handle.isStatic)]

/-- Reads a resolved field. -/
def read (datum : Datum) : Option FieldHandle := do
  return ⟨← datum.part? "class" >>= ClassHandle.read, ← datum.part? "name" >>= Datum.asText,
    ← datum.part? "type" >>= Datum.asText, ← readFlagPart datum "is_static"⟩

end FieldHandle

namespace HelperRoutine

/-- The data of a helper routine: its class and name. -/
def toDatum (routine : HelperRoutine) : Datum :=
  .list [routine.declaring.toDatum, .text routine.name]

/-- Reads a helper routine. -/
def read : Datum → Option HelperRoutine
  | .list [declaring, .text name] => (⟨·, name⟩) <$> ClassHandle.read declaring
  | _ => none

end HelperRoutine

/-! ### Statements -/

namespace Statement

/-- The parts of a statement besides its kind, as data. -/
def parts : Statement → List (String × Datum)
  | .constructor handle args result =>
    [("constructor", handle.toDatum), ("args", .list (args.map Operand.toDatum)),
      ("ret", .ofOption Var.toDatum result)]
  | .method handle callee args result =>
    [("method", handle.toDatum), ("callee", .ofOption Operand.toDatum callee),
      ("args", .list (args.map Operand.toDatum)), ("ret", .ofOption Var.toDatum result)]
  | .reflection helper args result =>
    [("helper", helper.toDatum), ("args", .list (args.map Operand.toDatum)),
      ("ret", .ofOption Var.toDatum result)]
  | .constant value result => [("value", value.toDatum), ("ret", result.toDatum)]
  | .null result => [("ret", result.toDatum)]
  | .fieldRead field owner result =>
    [("field", field.toDatum), ("owner", .ofOption Operand.toDatum owner),
      ("ret", result.toDatum)]
  | .assignment (.element array index) value =>
    [("array", array.toDatum), ("index", .integer index), ("value", value.toDatum)]
  | .assignment (.field field owner) value =>
    [("field", field.toDatum), ("owner", .ofOption Var.toDatum owner),
      ("value", value.toDatum)]
  | .newArray length result => [("length", .integer length), ("ret", result.toDatum)]

/-- The data of a statement. -/
def toDatum (statement : Statement) : Datum :=
  .record (("kind", .text statement.kind.name) :: statement.parts)

/-- Reads the target of an assignment. -/
def readTarget (datum : Datum) : Option AssignTarget :=
  match datum.part? "array" with
  | some array => do
    return .element (← Var.read array) (← datum.part? "index" >>= Datum.asNatural)
  | none => do
    return .field (← datum.part? "field" >>= FieldHandle.read)
      (← datum.optionalPart "owner" Var.read)

/-- Reads a statement. -/
def read (datum : Datum) : Option Statement := do
  let args := (·.getD []) <$> datum.optionalPart "args" (Datum.asList Operand.read)
  let result := datum.part? "ret" >>= Var.read
  let optionalResult := datum.optionalPart "ret" Var.read
  match ← datum.part? "kind" >>= Datum.asText with
  | "constructor" =>
    let handle ← datum.part? "constructor" >>= ConstructorHandle.read
    return constructor handle (← args) (← optionalResult)
  | "method" =>
    let handle ← datum.part? "method" >>= MethodHandle.read
    let callee ← datum.optionalPart "callee" Operand.read
    return method handle callee (← args) (← optionalResult)
  | "reflection" =>
    let helper ← datum.part? "helper" >>= HelperRoutine.read
    return reflection helper (← args) (← optionalResult)
  | "primitive" => return constant (← datum.part? "value" >>= Constant.read) (← result)
  | "null" => return null (← result)
  | "field_read" =>
    let field ← datum.part? "field" >>= FieldHandle.read
    return fieldRead field (← datum.optionalPart "owner" Operand.read) (← result)
  | "assignment" =>
    return assignment (← readTarget datum) (← datum.part? "value" >>= Operand.read)
  | "new_array" => return newArray (← datum.part? "length" >>= Datum.asNatural) (← result)
  | _ => none

end Statement

end TestPlan
