import TestPlan.Lowering.Session

/-!
Statements for steps through the reflection helpers. Each takes the readings of its operands as
steps of their own, to be carried out at the point where the operands are read.
-/

namespace TestPlan.Lower

variable {ρ : Type} [ClassLoading ρ]

/-- A routine of the configured helper class. -/
def helperRoutine (helpers : HelperLibrary) (name : String) : Lowering ρ HelperRoutine :=
  resolve (Resolve.helper helpers.binaryName name)

/-- The routine of a family that serves a type. -/
def familyRoutine (helpers : HelperLibrary) (purpose : HelperPurpose) (type : String) :
    Lowering ρ HelperRoutine :=
  helperRoutine helpers ((helpers.family purpose).select type)

/-- The routine of a family that serves the type of an operand. -/
def operandRoutine (helpers : HelperLibrary) (purpose : HelperPurpose) (operand : Operand) :
    Lowering ρ HelperRoutine := do
  familyRoutine helpers purpose (((← get).test.operandTypeName? operand).getD "")

/-- The class object and name by which the helpers find a field. -/
def fieldLocator (field : FieldReference) : Lowering ρ (List Operand) := do
  let loaded ← resolve (Resolve.loadOwner field.owner)
  return [.constant (.classObject loaded.type), .constant (.text field.name)]

/-- The object of a field access, a fresh null when the field is static. -/
def receiverOrNull : Option Operand → Lowering ρ Operand
  | some receiver => return receiver
  | none => return .var (← nullVar)

/-- Creates an object without a constructor. -/
def createUninitialized (helpers : HelperLibrary) (owner : String) (type : ValueType) :
    Lowering ρ Unit := do
  let type ← resolve (Resolve.runtimeType type)
  let helper ← helperRoutine helpers helpers.newInstance
  append (some (owner, type)) (.reflection helper [.constant (.text type.typeName)])

/-- Creates an array; only the routine for all types is told the element type. -/
def createArray (helpers : HelperLibrary) (owner : String) (type : ValueType)
    (length : Lowering ρ Operand) : Lowering ρ Unit := do
  let type ← arrayType owner type
  let element := (type.component?.map RuntimeType.typeName).getD ""
  let length ← length
  let args := match helpers.newArray.specializedFor? element with
    | some _ => [length]
    | none => [.constant (.text element), length]
  let helper ← familyRoutine helpers .newArray element
  append (some (owner, type)) (.reflection helper args)

/-- Stores a value in an array. -/
def setElement (helpers : HelperLibrary) (array : Var) (index value : Lowering ρ Operand) :
    Lowering ρ Unit := do
  let index ← index
  let value ← value
  let helper ← operandRoutine helpers .setElement value
  emit (.reflection helper [.var array, index, value] none)

/-- Takes an element of an array. -/
def getElement (helpers : HelperLibrary) (owner : String) (array index : Lowering ρ Operand)
    (elementType : ValueType) : Lowering ρ Unit := do
  let array ← array
  let index ← index
  let type ← resolve (Resolve.runtimeType elementType)
  let helper ← familyRoutine helpers .getElement type.typeName
  append (some (owner, type)) (.reflection helper [array, index])

/-- Stores a value in a field of an object, or in a static field. -/
def setField (helpers : HelperLibrary) (receiver : Option Operand) (field : FieldReference)
    (value : Lowering ρ Operand) : Lowering ρ Unit := do
  let value ← value
  let helper ← operandRoutine helpers .setField value
  let locator ← fieldLocator field
  -- All lookups are done, so the null is not made in vain.
  let receiver ← receiverOrNull receiver
  emit (.reflection helper (receiver :: locator ++ [value]) none)

/-- Takes the value of a field of an object, or of a static field. -/
def getField (helpers : HelperLibrary) (owner : String) (receiver : Option Operand)
    (field : FieldReference) : Lowering ρ Unit := do
  let type ← resolve (Resolve.runtimeType field.type)
  let helper ← familyRoutine helpers .getField type.typeName
  let locator ← fieldLocator field
  ensureUnbound owner
  let receiver ← receiverOrNull receiver
  append (some (owner, type)) (.reflection helper (receiver :: locator))

end TestPlan.Lower
