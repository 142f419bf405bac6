import TestPlan.Member.Basic
import TestPlan.Number.Binary

/-! Construction plans: named descriptions of how to produce the values of a test. -/

namespace TestPlan

/-- A primitive value or null. -/
inductive Literal where
  | null
  | boolean (value : Bool)
  | byte (value : Int8)
  | char (value : UInt16)
  | short (value : Int16)
  | int (value : Int32)
  | long (value : Int64)
  | float (value : Binary32)
  | double (value : Binary64)
  deriving DecidableEq

mutual

/-- A plan for one value; the name identifies the value wherever the plan occurs. -/
inductive Plan where
  | mk (name : String) (kind : PlanKind)

/-- How a plan produces its value. -/
inductive PlanKind where
  /-- Direct calls, carried out in order. -/
  | actions (steps : List Action)
  /-- Calls through the reflection helpers, carried out in order. -/
  | reflection (steps : List ReflectiveAction)
  /-- The call under test. -/
  | testCall (call : TestCall)
  | primitive (value : Literal)
  | text (value : String)
  /-- A mock object, which has no statements of its own. -/
  | mock (type : ValueType)
  /-- A value about which nothing is known. -/
  | unknown (type : ValueType)

/-- One direct step of a plan; the owner is the value of the plan itself. -/
inductive Action where
  /-- Stores a value in the owner, an array. -/
  | arrayWrite (index value : Plan)
  /-- Creates the owner with a constructor. -/
  | constructorCall (constructor : MethodReference) (args : List Plan)
  /-- Creates the owner with a constructor found outside its class. -/
  | externalConstructorCall (constructor : MethodReference) (args : List Plan)
  /-- Creates the owner, an object of an inner class. -/
  | innerClassConstructorCall (constructor : MethodReference) (outer : Plan) (args : List Plan)
  /-- Creates the owner with the constructor that has no parameters. -/
  | defaultConstructorCall (className : String)
  /-- Takes an enum constant as the owner. -/
  | enumValueCreation (className name : String)
  /-- Calls a method on the owner. -/
  | methodCall (method : MethodReference) (args : List Plan)
  /-- Takes the result of a method of another object as the owner. -/
  | externalMethodCall (method : MethodReference) (receiver : Option Plan) (args : List Plan)
  /-- Calls a static method for its effect. -/
  | staticMethodCall (method : MethodReference) (args : List Plan)
  /-- Takes a field of another object as the owner. -/
  | fieldGetter (receiver : Plan) (field : FieldReference)
  /-- Takes a static field as the owner. -/
  | staticFieldGetter (field : FieldReference)
  /-- Stores a value in a field of the owner. -/
  | fieldSetter (field : FieldReference) (value : Plan)
  /-- Stores a value in a static field. -/
  | staticFieldSetter (field : FieldReference) (value : Plan)
  /-- Creates the owner, an array of a literal length. -/
  | newArray (type : ValueType) (length : Plan)
  /-- Creates the owner, an array of the given elements. -/
  | newArrayWithInitializer (type : ValueType) (elements : List Plan)
  /-- Takes the class object of a type as the owner. -/
  | classConstantGetter (type : ValueType)
  /-- Takes the class object of an array type as the owner. -/
  | arrayClassConstantGetter (elementType : Plan)

/-- One step of a plan that goes through the reflection helpers. -/
inductive ReflectiveAction where
  /-- Creates the owner without a constructor. -/
  | newInstance (type : ValueType)
  /-- Creates the owner, an array. -/
  | newArray (type : ValueType) (length : Plan)
  /-- Stores a value in the owner, an array. -/
  | arrayWrite (index value : Plan)
  /-- Takes an element of an array as the owner. -/
  | arrayRead (array index : Plan) (elementType : ValueType)
  /-- Stores a value in a field of the owner. -/
  | setField (field : FieldReference) (value : Plan)
  /-- Stores a value in a static field. -/
  | setStaticField (field : FieldReference) (value : Plan)
  /-- Takes a field of another object as the owner. -/
  | getField (receiver : Plan) (field : FieldReference)
  /-- Takes a static field as the owner. -/
  | getStaticField (field : FieldReference)

/-- A call of the method under test. -/
inductive TestCall where
  | mk (method : MethodReference) (receiver : Option Plan) (args : List Plan)

end

/-- The plans of everything a test needs before its call. -/
structure Parameters where
  receiver : Option Plan := none
  arguments : List Plan := []
  statics : List Plan := []

namespace Literal

/-- The type of a primitive value. -/
def primitive? : Literal → Option Primitive
  | .null => none
  | .boolean _ => some .boolean
  | .byte _ => some .byte
  | .char _ => some .char
  | .short _ => some .short
  | .int _ => some .int
  | .long _ => some .long
  | .float _ => some .float
  | .double _ => some .double

/-- The value of a literal of at most 32 bits of integer. -/
def asInt? : Literal → Option Int
  | .byte value => some value.toInt
  | .char value => some value.toNat
  | .short value => some value.toInt
  | .int value => some value.toInt
  | _ => none

end Literal

namespace Action

/-- The plans of the values a step reads, in the order they are read. -/
def operands : Action → List Plan
  | .arrayWrite index value => [index, value]
  | .constructorCall _ args
  | .externalConstructorCall _ args
  | .methodCall _ args
  | .staticMethodCall _ args => args
  | .innerClassConstructorCall _ outer args => outer :: args
  | .externalMethodCall _ receiver args => receiver.toList ++ args
  | .fieldGetter receiver _ => [receiver]
  | .fieldSetter _ value
  | .staticFieldSetter _ value => [value]
  | .newArray _ length => [length]
  | .newArrayWithInitializer _ elements => elements
  | .arrayClassConstantGetter elementType => [elementType]
  | .defaultConstructorCall _
  | .enumValueCreation _ _
  | .staticFieldGetter _
  | .classConstantGetter _ => []

end Action

namespace ReflectiveAction

/-- The plans of the values a step reads, in the order they are read. -/
def operands : ReflectiveAction → List Plan
  | .newInstance _
  | .getStaticField _ => []
  | .newArray _ length => [length]
  | .arrayWrite index value => [index, value]
  | .arrayRead array index _ => [array, index]
  | .setField _ value
  | .setStaticField _ value => [value]
  | .getField receiver _ => [receiver]

end ReflectiveAction

namespace TestCall

/-- The method that is called. -/
def method : TestCall → MethodReference
  | .mk method _ _ => method

/-- The receiver and arguments of the call. -/
def operands : TestCall → List Plan
  | .mk _ receiver args => receiver.toList ++ args

end TestCall

namespace PlanKind

/-- The word for the kind in messages. -/
def label : PlanKind → String
  | .actions _ => "actions"
  | .reflection _ => "reflection"
  | .testCall _ => "test-call"
  | .primitive _ => "primitive"
  | .text _ => "string"
  | .mock _ => "mock"
  | .unknown _ => "unknown"

/-- The plans of the values that producing a value of this kind reads, in order. -/
def operands : PlanKind → List Plan
  | .actions steps => steps.flatMap Action.operands
  | .reflection steps => steps.flatMap ReflectiveAction.operands
  | .testCall call => call.operands
  | .primitive _
  | .text _
  | .mock _
  | .unknown _ => []

end PlanKind

namespace Plan

/-- The name that identifies the value. -/
def name : Plan → String
  | .mk name _ => name

/-- How the value is produced. -/
def kind : Plan → PlanKind
  | .mk _ kind => kind

/-- The plans of the values that this plan reads, in order. -/
def operands (plan : Plan) : List Plan :=
  plan.kind.operands

end Plan

namespace Parameters

/-- Every plan of a test in the order of preparation: receiver, arguments, statics. -/
def roots (parameters : Parameters) : List Plan :=
  parameters.receiver.toList ++ parameters.arguments ++ parameters.statics

/-- The call of a method on the receiver and arguments. -/
def testCall (parameters : Parameters) (method : MethodReference) : TestCall :=
  .mk method parameters.receiver parameters.arguments

end Parameters

end TestPlan
