import TestPlan.Lowering.Session

/-!
Statements for direct steps. Each takes the readings of its operands as steps of their own, to
be carried out at the point where the operands are read.
-/

namespace TestPlan.Lower

variable {ρ : Type} [ClassLoading ρ]

/-- The type of the value that a call gives to a plan; void is none. -/
def resultType (owner : String) (method : MethodReference) : Lowering ρ RuntimeType := do
  let type ← resolve (Resolve.runtimeType method.returns)
  if type = .void then throw (.voidResult owner method)
  return type

/-- The plan that takes the result of a method, with the type of the result. -/
def resultTarget (method : MethodReference) :
    Option String → Lowering ρ (Option (String × RuntimeType))
  | none => return none
  | some owner => return some (owner, ← resultType owner method)

/-- Calls a constructor, whose result goes to a plan when one is given. -/
def invokeConstructor (constructor : MethodReference) (args : Lowering ρ (List Operand))
    (owner : Option String) : Lowering ρ Unit := do
  let (loaded, handle) ← resolve (Resolve.constructor constructor)
  let args ← args
  append (owner.map (·, loaded.type)) (.constructor handle args)

/-- Calls a method, whose result goes to a plan when one is given. -/
def invokeMethod (method : MethodReference) (callee : Lowering ρ (Option Operand))
    (args : Lowering ρ (List Operand)) (owner : Option String) : Lowering ρ Unit := do
  let handle ← resolve (Resolve.method method)
  let target ← resultTarget method owner
  let callee ← callee
  let args ← args
  append target (.method handle callee args)

/-- Calls a method or constructor, whose result goes to a plan when one is given. -/
def invoke (method : MethodReference) (callee : Lowering ρ (Option Operand))
    (args : Lowering ρ (List Operand)) (owner : Option String) : Lowering ρ Unit := do
  owner.forM ensureUnbound
  if method.isConstructor then invokeConstructor method args owner
  else invokeMethod method callee args owner

/-- Creates an object with the constructor that has no parameters. -/
def createDefault (owner className : String) : Lowering ρ Unit := do
  let (loaded, handle) ← resolve (Resolve.defaultConstructor className)
  append (some (owner, loaded.type)) (.constructor handle [])

/-- Takes an enum constant. -/
def enumValue (owner className name : String) : Lowering ρ Unit := do
  let loaded ← resolve (Resolve.loadOwner className)
  let constant ← resolve (Resolve.enumConstant loaded name)
  let _ ← define owner loaded.type (.constant constant)

/-- Takes the value of a field, of an object when one is read. -/
def readField (owner : String) (field : FieldReference) (receiver : Lowering ρ (Option Operand)) :
    Lowering ρ Unit := do
  let handle ← resolve (Resolve.field field)
  let type ← resolve (Resolve.runtimeType field.type)
  let receiver ← receiver
  let _ ← define owner type (.fieldRead handle receiver)

/-- Stores a value in a field, of an object when one is given. -/
def writeField (receiver : Option Var) (field : FieldReference) (value : Lowering ρ Operand) :
    Lowering ρ Unit := do
  let handle ← resolve (Resolve.field field)
  emit (.assignment (.field handle receiver) (← value))

/-- Creates an array of a length. -/
def newArray (owner : String) (type : ValueType) (length : Except CompileError Nat) :
    Lowering ρ Unit := do
  let type ← arrayType owner type
  let length ← ofExcept length
  let _ ← define owner type (.newArray length)

/-- Takes the class object of a type. -/
def classConstant (owner : String) (type : ValueType) : Lowering ρ Unit := do
  let classType ← resolve (Resolve.typeNamed classClass)
  let value ← resolve (Resolve.runtimeType type)
  let _ ← define owner classType (.constant (.classObject value))

/-- Takes the class object of an array type, that of an empty array of its elements. -/
def arrayClassConstant (owner : String) (element : Lowering ρ Operand) : Lowering ρ Unit := do
  ensureUnbound owner
  let element ← element
  let newInstance ←
    resolve (Resolve.methodNamed reflectArrayClass "newInstance" [classClass, "int"])
  let arrayType ← resolve (Resolve.typeNamed newInstance.returns)
  let getClass ← resolve (Resolve.methodNamed objectClass "getClass" [])
  let classType ← resolve (Resolve.typeNamed classClass)
  -- All lookups are done, so the array is not made in vain.
  let array ← temporary arrayType fun result =>
    .method newInstance none [element, .constant (.int 0)] (some result)
  let _ ← define owner classType fun result =>
    .method getClass (some (.var array)) [] (some result)

end TestPlan.Lower
