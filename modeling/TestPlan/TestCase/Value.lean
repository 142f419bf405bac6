import TestPlan.ClassModel.RuntimeType
import TestPlan.Number.Binary

/-! The constants and variables that statements operate on. -/

namespace TestPlan

/-- A variable of a test case, known by the order of its declaration. -/
structure Var where
  index : Nat
  deriving DecidableEq, Repr

/-- The name of a variable in messages. -/
def Var.display (var : Var) : String :=
  "v" ++ toString var.index

/-- A value that can stand in a statement as it is. -/
inductive Constant where
  | boolean (value : Bool)
  | byte (value : Int8)
  | char (value : UInt16)
  | short (value : Int16)
  | int (value : Int32)
  | long (value : Int64)
  | float (value : Binary32)
  | double (value : Binary64)
  | text (value : String)
  /-- The class object of a type. -/
  | classObject (type : RuntimeType)
  /-- A constant of an enum class. -/
  | enumConstant (enumClass : ClassHandle) (name : String)
  deriving DecidableEq

namespace Constant

/-- The type of a primitive constant. -/
def primitive? : Constant → Option Primitive
  | .boolean _ => some .boolean
  | .byte _ => some .byte
  | .char _ => some .char
  | .short _ => some .short
  | .int _ => some .int
  | .long _ => some .long
  | .float _ => some .float
  | .double _ => some .double
  | .text _
  | .classObject _
  | .enumConstant _ _ => none

/-- The name of the type of a constant. -/
def typeName (constant : Constant) : String :=
  match constant with
  | .text _ => stringClass
  | .classObject _ => classClass
  | .enumConstant enumClass _ => enumClass.name
  | _ => (constant.primitive?.map Primitive.keyword).getD ""

/-- The array index that an integer constant of at most 32 bits stands for. -/
def asIndex? : Constant → Option Nat
  | .byte value => value.toInt.toNat?
  | .char value => some value.toNat
  | .short value => value.toInt.toNat?
  | .int value => value.toInt.toNat?
  | _ => none

/-- Whether two constants are equal, floating-point ones as numbers. -/
def same : Constant → Constant → Bool
  | .float x, .float y => x.numericEq y
  | .double x, .double y => x.numericEq y
  | left, right => left == right

end Constant

/-- What a statement reads: a variable or a constant. -/
inductive Operand where
  | var (source : Var)
  | constant (value : Constant)
  deriving DecidableEq

namespace Operand

/-- The variable that is read, if it is one. -/
def var? : Operand → Option Var
  | .var source => some source
  | .constant _ => none

/-- Whether two operands are equal, floating-point constants as numbers. -/
def same : Operand → Operand → Bool
  | .constant left, .constant right => left.same right
  | left, right => left == right

end Operand

end TestPlan
