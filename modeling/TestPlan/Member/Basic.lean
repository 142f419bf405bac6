import TestPlan.ValueType.Scan

/-! References to fields, methods and constructors by owner, name and type. -/

namespace TestPlan

/-- The name under which constructors are referenced. -/
def constructorName : String := "<init>"

/-- A field named by the internal name of its owner, its own name and its type. -/
structure FieldReference where
  owner : String
  name : String
  type : ValueType
  isStatic : Bool := false
  deriving DecidableEq, Repr

/-- A method or constructor named by owner, name, parameter types and result type. -/
structure MethodReference where
  owner : String
  name : String
  params : List ValueType
  returns : ValueType
  isStatic : Bool := false
  deriving DecidableEq, Repr

/-- The field in readable form. -/
def FieldReference.display (field : FieldReference) : String :=
  field.owner ++ "." ++ field.name ++ ": " ++ field.type.display

namespace MethodReference

/-- The constructor of a class with the given parameter types. -/
def constructor (owner : String) (params : List ValueType) : MethodReference :=
  ⟨owner, constructorName, params, .void, false⟩

/-- Whether the reference names a constructor. -/
def isConstructor (method : MethodReference) : Bool :=
  method.name == constructorName

/-- The descriptor: parameter descriptors in parentheses, then that of the result. -/
def descriptor (method : MethodReference) : String :=
  "(" ++ String.join (method.params.map ValueType.descriptor) ++ ")" ++ method.returns.descriptor

/-- The method in readable form. -/
def display (method : MethodReference) : String :=
  method.owner ++ "." ++ method.name ++ method.descriptor

end MethodReference

end TestPlan
