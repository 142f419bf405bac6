import TestPlan.Member.Codec
import TestPlan.Plan.Basic

/-!
Plans read from data. A step names itself among its parts, so all of it is held before it is
read; `held` tells the readers below it, and `room` is the nesting that is still allowed.
-/

namespace TestPlan

/-- Reads a single-precision value; an integer is rounded once, straight to it. -/
def Binary32.read : Datum → Option Binary32
  | .integer value => some (.ofInt value)
  | .real value => some value.narrow
  | _ => none

/-- Reads a double-precision value. -/
def Binary64.read : Datum → Option Binary64
  | .integer value => some (.ofInt value)
  | .real value => some value
  | _ => none

/-- Reads the value of a literal of a primitive type. -/
def Literal.readAs (datum : Datum) : Primitive → Option Literal
  | .boolean => .boolean <$> datum.asBoolean
  | .byte => (.byte <| .ofInt ·) <$> datum.asIntegerIn Int8.minValue.toInt Int8.maxValue.toInt
  | .char => (.char <| .ofNat ·.toNat) <$> datum.asIntegerIn 0 (UInt16.size - 1)
  | .short =>
    (.short <| .ofInt ·) <$> datum.asIntegerIn Int16.minValue.toInt Int16.maxValue.toInt
  | .int => (.int <| .ofInt ·) <$> datum.asIntegerIn Int32.minValue.toInt Int32.maxValue.toInt
  | .long =>
    (.long <| .ofInt ·) <$> datum.asIntegerIn Int64.minValue.toInt Int64.maxValue.toInt
  | .float => .float <$> Binary32.read datum
  | .double => .double <$> Binary64.read datum

/-- Reads a literal within the given room. -/
def Literal.read (held : Bool) (room : Nat) (datum : Datum) : Option Literal :=
  if datum.unitVariant? held room = some "null" then some .null
  else
    match room with
    | 0 => none
    | _ + 1 => do
      let (name, content) ← datum.variant?
      Literal.readAs content (← Primitive.ofKeyword? name)

/-- The names of the direct steps, in the order of their positions. -/
def Action.names : List String :=
  ["array_write", "constructor_call", "external_constructor_call",
    "inner_class_constructor_call", "default_constructor_call", "enum_value_creation",
    "method_call", "external_method_call", "static_method_call", "field_getter",
    "static_field_getter", "field_setter", "static_field_setter", "new_array",
    "new_array_with_initializer", "class_constant_getter", "array_class_constant_getter"]

/-- The names of the reflective steps, in the order of their positions. -/
def ReflectiveAction.names : List String :=
  ["new_instance", "new_array", "array_write", "array_read", "set_field", "set_static_field",
    "get_field", "get_static_field"]

mutual

/-- Reads a plan. -/
def Plan.read (held : Bool) : Nat → Datum → Option Plan
  | 0, _ => none
  | room + 1, datum => do
    let fields ← datum.fields ["name", "kind"]
    let name ← fields.required "name" Datum.asText
    let kind ← fields.required "kind" (PlanKind.read held room)
    return .mk name kind

/-- Reads a kind, a record with one entry. -/
def PlanKind.read (held : Bool) : Nat → Datum → Option PlanKind
  | 0, _ => none
  | room + 1, datum => do
    let (name, content) ← datum.variant?
    match name with
    | "actions" => .actions <$> readActions held room content
    | "reflection" => .reflection <$> readReflectiveActions held room content
    | "test_call" => .testCall <$> TestCall.read held room content
    | "primitive" => .primitive <$> Literal.read held room content
    | "string" => .text <$> content.asText
    | "mock" => .mock <$> readTypePart held room content
    | "unknown" => .unknown <$> readTypePart held room content
    | _ => none

/-- Reads the one part of a kind that has only a type. -/
def readTypePart (held : Bool) : Nat → Datum → Option ValueType
  | 0, _ => none
  | room + 1, datum => do
    let fields ← datum.fields ["type"]
    fields.required "type" (ValueType.read held room)

/-- Reads a list of direct steps. -/
def readActions (held : Bool) : Nat → Datum → Option (List Action)
  | 0, _ => none
  | room + 1, datum => datum.asList (Action.read held room)

/-- Reads a list of reflective steps. -/
def readReflectiveActions (held : Bool) : Nat → Datum → Option (List ReflectiveAction)
  | 0, _ => none
  | room + 1, datum => datum.asList (ReflectiveAction.read held room)

/-- Reads a list of plans. -/
def readPlans (held : Bool) : Nat → Datum → Option (List Plan)
  | 0, _ => none
  | room + 1, datum => datum.asList (Plan.read held room)

/-- Reads a direct step. -/
def Action.read (held : Bool) : Nat → Datum → Option Action
  | 0, _ => none
  | room + 1, datum => do
    if !held && !datum.canBeHeld (room + 1) then none
    let (tag, parts) ← datum.selfTagged? "op"
    let name ← tag.tagName? held Action.names
    let plan := Plan.read true room
    let plans := readPlans true room
    let method := MethodReference.read true room
    let field := FieldReference.read true room
    let type := ValueType.read true room
    match name with
    | "array_write" =>
      let parts ← parts.fields ["index", "value"]
      return .arrayWrite (← parts.required "index" plan) (← parts.required "value" plan)
    | "constructor_call" =>
      let parts ← parts.fields ["constructor", "args"]
      return .constructorCall (← parts.required "constructor" method)
        (← parts.required "args" plans)
    | "external_constructor_call" =>
      let parts ← parts.fields ["constructor", "args"]
      return .externalConstructorCall (← parts.required "constructor" method)
        (← parts.required "args" plans)
    | "inner_class_constructor_call" =>
      let parts ← parts.fields ["constructor", "outer", "args"]
      return .innerClassConstructorCall (← parts.required "constructor" method)
        (← parts.required "outer" plan) (← parts.required "args" plans)
    | "default_constructor_call" =>
      let parts ← parts.fields ["class"]
      return .defaultConstructorCall (← parts.required "class" Datum.asText)
    | "enum_value_creation" =>
      let parts ← parts.fields ["class", "name"]
      return .enumValueCreation (← parts.required "class" Datum.asText)
        (← parts.required "name" Datum.asText)
    | "method_call" =>
      let parts ← parts.fields ["method", "args"]
      return .methodCall (← parts.required "method" method) (← parts.required "args" plans)
    | "external_method_call" =>
      let parts ← parts.fields ["method", "instance", "args"]
      return .externalMethodCall (← parts.required "method" method)
        (← parts.withDefault "instance" none (Datum.asOption plan))
        (← parts.required "args" plans)
    | "static_method_call" =>
      let parts ← parts.fields ["method", "args"]
      return .staticMethodCall (← parts.required "method" method)
        (← parts.required "args" plans)
    | "field_getter" =>
      let parts ← parts.fields ["instance", "field"]
      return .fieldGetter (← parts.required "instance" plan) (← parts.required "field" field)
    | "static_field_getter" =>
      let parts ← parts.fields ["field"]
      return .staticFieldGetter (← parts.required "field" field)
    | "field_setter" =>
      let parts ← parts.fields ["field", "value"]
      return .fieldSetter (← parts.required "field" field) (← parts.required "value" plan)
    | "static_field_setter" =>
      let parts ← parts.fields ["field", "value"]
      return .staticFieldSetter (← parts.required "field" field)
        (← parts.required "value" plan)
    | "new_array" =>
      let parts ← parts.fields ["type", "length"]
      return .newArray (← parts.required "type" type) (← parts.required "length" plan)
    | "new_array_with_initializer" =>
      let parts ← parts.fields ["type", "elements"]
      return .newArrayWithInitializer (← parts.required "type" type)
        (← parts.required "elements" plans)
    | "class_constant_getter" =>
      let parts ← parts.fields ["type"]
      return .classConstantGetter (← parts.required "type" type)
    | "array_class_constant_getter" =>
      let parts ← parts.fields ["element_type"]
      return .arrayClassConstantGetter (← parts.required "element_type" plan)
    | _ => none

/-- Reads a reflective step. -/
def ReflectiveAction.read (held : Bool) : Nat → Datum → Option ReflectiveAction
  | 0, _ => none
  | room + 1, datum => do
    if !held && !datum.canBeHeld (room + 1) then none
    let (tag, parts) ← datum.selfTagged? "op"
    let name ← tag.tagName? held ReflectiveAction.names
    let plan := Plan.read true room
    let field := FieldReference.read true room
    let type := ValueType.read true room
    match name with
    | "new_instance" =>
      let parts ← parts.fields ["type"]
      return .newInstance (← parts.required "type" type)
    | "new_array" =>
      let parts ← parts.fields ["type", "length"]
      return .newArray (← parts.required "type" type) (← parts.required "length" plan)
    | "array_write" =>
      let parts ← parts.fields ["index", "value"]
      return .arrayWrite (← parts.required "index" plan) (← parts.required "value" plan)
    | "array_read" =>
      let parts ← parts.fields ["array", "index", "element_type"]
      return .arrayRead (← parts.required "array" plan) (← parts.required "index" plan)
        (← parts.required "element_type" type)
    | "set_field" =>
      let parts ← parts.fields ["field", "value"]
      return .setField (← parts.required "field" field) (← parts.required "value" plan)
    | "set_static_field" =>
      let parts ← parts.fields ["field", "value"]
      return .setStaticField (← parts.required "field" field) (← parts.required "value" plan)
    | "get_field" =>
      let parts ← parts.fields ["instance", "field"]
      return .getField (← parts.required "instance" plan) (← parts.required "field" field)
    | "get_static_field" =>
      let parts ← parts.fields ["field"]
      return .getStaticField (← parts.required "field" field)
    | _ => none

/-- Reads a test call. -/
def TestCall.read (held : Bool) : Nat → Datum → Option TestCall
  | 0, _ => none
  | room + 1, datum => do
    let fields ← datum.fields ["method", "instance", "args"]
    let method ← fields.required "method" (MethodReference.read held room)
    let receiver ← fields.withDefault "instance" none (Datum.asOption (Plan.read held room))
    let args ← fields.withDefault "args" [] (readPlans held room)
    return .mk method receiver args

end

/-- Reads the parameters of a test. -/
def Parameters.read (held : Bool) : Nat → Datum → Option Parameters
  | 0, _ => none
  | room + 1, datum => do
    let fields ← datum.fields ["instance", "arguments", "statics"]
    return {
      receiver := ← fields.withDefault "instance" none (Datum.asOption (Plan.read held room))
      arguments := ← fields.withDefault "arguments" [] (readPlans held room)
      statics := ← fields.withDefault "statics" [] (readPlans held room) }

end TestPlan
