import TestPlan.Member.Codec
import TestPlan.Plan.Basic

/-! Plans written as data. -/

namespace TestPlan

/-- The data of a floating-point value; an infinite one has none. -/
def realDatum (x : Binary64) : Datum :=
  if x.isFinite then .real x else .null

/-- The data of a literal: null is a bare name, any other a record of its type and value. -/
def Literal.toDatum : Literal → Datum
  | .null => .text "null"
  | .boolean value => .record [("boolean", .boolean value)]
  | .byte value => .record [("byte", .integer value.toInt)]
  | .char value => .record [("char", .integer value.toNat)]
  | .short value => .record [("short", .integer value.toInt)]
  | .int value => .record [("int", .integer value.toInt)]
  | .long value => .record [("long", .integer value.toInt)]
  | .float value => .record [("float", realDatum value.widen)]
  | .double value => .record [("double", realDatum value)]

mutual

/-- The data of a plan. -/
def Plan.toDatum : Plan → Datum
  | .mk name kind => .record [("name", .text name), ("kind", kind.toDatum)]

/-- The data of a kind: a record with the name of the kind as its only entry. -/
def PlanKind.toDatum : PlanKind → Datum
  | .actions steps => .record [("actions", .list (actionData steps))]
  | .reflection steps => .record [("reflection", .list (reflectiveActionData steps))]
  | .testCall call => .record [("test_call", call.toDatum)]
  | .primitive value => .record [("primitive", value.toDatum)]
  | .text value => .record [("string", .text value)]
  | .mock type => .record [("mock", .record [("type", type.toDatum)])]
  | .unknown type => .record [("unknown", .record [("type", type.toDatum)])]

/-- The data of a direct step: its name under `op`, then its parts. -/
def Action.toDatum : Action → Datum
  | .arrayWrite index value =>
    .record [("op", .text "array_write"), ("index", index.toDatum), ("value", value.toDatum)]
  | .constructorCall constructor args =>
    .record [("op", .text "constructor_call"), ("constructor", constructor.toDatum),
      ("args", .list (planData args))]
  | .externalConstructorCall constructor args =>
    .record [("op", .text "external_constructor_call"), ("constructor", constructor.toDatum),
      ("args", .list (planData args))]
  | .innerClassConstructorCall constructor outer args =>
    .record [("op", .text "inner_class_constructor_call"),
      ("constructor", constructor.toDatum), ("outer", outer.toDatum),
      ("args", .list (planData args))]
  | .defaultConstructorCall className =>
    .record [("op", .text "default_constructor_call"), ("class", .text className)]
  | .enumValueCreation className name =>
    .record [("op", .text "enum_value_creation"), ("class", .text className),
      ("name", .text name)]
  | .methodCall method args =>
    .record [("op", .text "method_call"), ("method", method.toDatum),
      ("args", .list (planData args))]
  | .externalMethodCall method receiver args =>
    .record [("op", .text "external_method_call"), ("method", method.toDatum),
      ("instance", optionalDatum receiver), ("args", .list (planData args))]
  | .staticMethodCall method args =>
    .record [("op", .text "static_method_call"), ("method", method.toDatum),
      ("args", .list (planData args))]
  | .fieldGetter receiver field =>
    .record [("op", .text "field_getter"), ("instance", receiver.toDatum),
      ("field", field.toDatum)]
  | .staticFieldGetter field =>
    .record [("op", .text "static_field_getter"), ("field", field.toDatum)]
  | .fieldSetter field value =>
    .record [("op", .text "field_setter"), ("field", field.toDatum), ("value", value.toDatum)]
  | .staticFieldSetter field value =>
    .record [("op", .text "static_field_setter"), ("field", field.toDatum),
      ("value", value.toDatum)]
  | .newArray type length =>
    .record [("op", .text "new_array"), ("type", type.toDatum), ("length", length.toDatum)]
  | .newArrayWithInitializer type elements =>
    .record [("op", .text "new_array_with_initializer"), ("type", type.toDatum),
      ("elements", .list (planData elements))]
  | .classConstantGetter type =>
    .record [("op", .text "class_constant_getter"), ("type", type.toDatum)]
  | .arrayClassConstantGetter elementType =>
    .record [("op", .text "array_class_constant_getter"),
      ("element_type", elementType.toDatum)]

/-- The data of a reflective step: its name under `op`, then its parts. -/
def ReflectiveAction.toDatum : ReflectiveAction → Datum
  | .newInstance type => .record [("op", .text "new_instance"), ("type", type.toDatum)]
  | .newArray type length =>
    .record [("op", .text "new_array"), ("type", type.toDatum), ("length", length.toDatum)]
  | .arrayWrite index value =>
    .record [("op", .text "array_write"), ("index", index.toDatum), ("value", value.toDatum)]
  | .arrayRead array index elementType =>
    .record [("op", .text "array_read"), ("array", array.toDatum), ("index", index.toDatum),
      ("element_type", elementType.toDatum)]
  | .setField field value =>
    .record [("op", .text "set_field"), ("field", field.toDatum), ("value", value.toDatum)]
  | .setStaticField field value =>
    .record [("op", .text "set_static_field"), ("field", field.toDatum),
      ("value", value.toDatum)]
  | .getField receiver field =>
    .record [("op", .text "get_field"), ("instance", receiver.toDatum),
      ("field", field.toDatum)]
  | .getStaticField field =>
    .record [("op", .text "get_static_field"), ("field", field.toDatum)]

/-- The data of a test call. -/
def TestCall.toDatum : TestCall → Datum
  | .mk method receiver args =>
    .record [("method", method.toDatum), ("instance", optionalDatum receiver),
      ("args", .list (planData args))]

/-- The data of each plan of a list. -/
def planData : List Plan → List Datum
  | [] => []
  | plan :: rest => plan.toDatum :: planData rest

/-- The data of an optional plan, null when it is absent. -/
def optionalDatum : Option Plan → Datum
  | none => .null
  | some plan => plan.toDatum

/-- The data of each step of a list. -/
def actionData : List Action → List Datum
  | [] => []
  | step :: rest => step.toDatum :: actionData rest

/-- The data of each step of a list. -/
def reflectiveActionData : List ReflectiveAction → List Datum
  | [] => []
  | step :: rest => step.toDatum :: reflectiveActionData rest

end

/-- The data of the parameters of a test. -/
def Parameters.toDatum (parameters : Parameters) : Datum :=
  .record [("instance", optionalDatum parameters.receiver),
    ("arguments", .list (planData parameters.arguments)),
    ("statics", .list (planData parameters.statics))]

end TestPlan
