import TestPlan.ClassModel.Basic
import TestPlan.ValueType.Basic

/-! Loaded classes and the types built from them. -/

namespace TestPlan

/-- The layer of the class space that a class comes from. -/
inductive Layer where
  | instrumented
  | runtime
  | host
  deriving DecidableEq, Repr

/-- The name of a layer in messages. -/
def Layer.label : Layer → String
  | .instrumented => "Instrumented"
  | .runtime => "Runtime"
  | .host => "Host"

/-- The identity of a loaded class: the same name from another layer is another class. -/
structure ClassHandle where
  name : String
  origin : Layer
  deriving DecidableEq, Repr

/-- A type of the running program. -/
inductive RuntimeType where
  | void
  | primitive (type : Primitive)
  | object (handle : ClassHandle)
  | array (component : RuntimeType)
  deriving DecidableEq, Repr

namespace RuntimeType

/-- The name of the type: keyword or class name, then brackets for each array level. -/
def typeName : RuntimeType → String
  | .void => "void"
  | .primitive type => type.keyword
  | .object handle => handle.name
  | .array component => component.typeName ++ "[]"

/-- Whether values of the type are primitive. -/
def isPrimitive : RuntimeType → Bool
  | .primitive _ => true
  | _ => false

/-- The type of the elements, for an array type. -/
def component? : RuntimeType → Option RuntimeType
  | .array component => some component
  | _ => none

/-- Whether values of the type are arrays. -/
def isArray (type : RuntimeType) : Bool :=
  type.component?.isSome

/-- The class, for the type of plain objects. -/
def handle? : RuntimeType → Option ClassHandle
  | .object handle => some handle
  | _ => none

end RuntimeType

/-- A class definition together with the layer that it was found in. -/
structure LoadedClass where
  definition : ClassDefinition
  origin : Layer
  deriving DecidableEq, Repr

namespace LoadedClass

/-- The name of the class. -/
def name (loaded : LoadedClass) : String :=
  loaded.definition.name

/-- The identity of the class. -/
def handle (loaded : LoadedClass) : ClassHandle :=
  ⟨loaded.name, loaded.origin⟩

/-- The type of the objects of the class. -/
def type (loaded : LoadedClass) : RuntimeType :=
  .object loaded.handle

end LoadedClass

end TestPlan
