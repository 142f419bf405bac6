import TestPlan.TestCase.Value

/-! The statements of a test case. -/

namespace TestPlan

/-- A resolved constructor. -/
structure ConstructorHandle where
  declaring : ClassHandle
  params : List String
  deriving DecidableEq, Repr

/-- A resolved method with the class that declares it. -/
structure MethodHandle where
  declaring : ClassHandle
  name : String
  params : List String
  returns : String
  isStatic : Bool
  deriving DecidableEq, Repr

/-- A resolved field with the class that declares it. -/
structure FieldHandle where
  declaring : ClassHandle
  name : String
  type : String
  isStatic : Bool
  deriving DecidableEq, Repr

/-- A routine of the reflection helper class. -/
structure HelperRoutine where
  declaring : ClassHandle
  name : String
  deriving DecidableEq, Repr

/-- Where an assignment stores its value. -/
inductive AssignTarget where
  | element (array : Var) (index : Nat)
  | field (field : FieldHandle) (owner : Option Var)
  deriving DecidableEq

/-- One step of a test case. -/
inductive Statement where
  | constructor (handle : ConstructorHandle) (args : List Operand) (result : Option Var)
  | method (handle : MethodHandle) (callee : Option Operand) (args : List Operand)
      (result : Option Var)
  | reflection (helper : HelperRoutine) (args : List Operand) (result : Option Var)
  | constant (value : Constant) (result : Var)
  | null (result : Var)
  | fieldRead (field : FieldHandle) (owner : Option Operand) (result : Var)
  | assignment (target : AssignTarget) (value : Operand)
  | newArray (length : Nat) (result : Var)
  deriving DecidableEq

/-- What a statement calls. -/
inductive Callable where
  | constructor (handle : ConstructorHandle)
  | method (handle : MethodHandle)
  | helper (routine : HelperRoutine)
  deriving DecidableEq

/-- The call in readable form. -/
def Callable.display : Callable → String
  | .constructor handle =>
    handle.declaring.name ++ ".<init>(" ++ ", ".intercalate handle.params ++ ")"
  | .method handle =>
    handle.declaring.name ++ "." ++ handle.name ++ "(" ++ ", ".intercalate handle.params ++ ")"
  | .helper routine => routine.declaring.name ++ "." ++ routine.name

/-- What sort of step a statement is. -/
inductive StatementKind where
  | constructor
  | method
  | reflection
  | constant
  | null
  | fieldRead
  | assignment
  | newArray
  deriving DecidableEq, Repr

/-- The name of the sort of step in data. -/
def StatementKind.name : StatementKind → String
  | .constructor => "constructor"
  | .method => "method"
  | .reflection => "reflection"
  | .constant => "primitive"
  | .null => "null"
  | .fieldRead => "field_read"
  | .assignment => "assignment"
  | .newArray => "new_array"

/-- The word for the sort of step in reports. -/
def StatementKind.label : StatementKind → String
  | .constructor => "constructor"
  | .method => "method"
  | .reflection => "reflection"
  | .constant => "constant"
  | .null => "null"
  | .fieldRead => "field-read"
  | .assignment => "assignment"
  | .newArray => "new-array"

namespace Statement

/-- The sort of step. -/
def kind : Statement → StatementKind
  | .constructor _ _ _ => .constructor
  | .method _ _ _ _ => .method
  | .reflection _ _ _ => .reflection
  | .constant _ _ => .constant
  | .null _ => .null
  | .fieldRead _ _ _ => .fieldRead
  | .assignment _ _ => .assignment
  | .newArray _ _ => .newArray

/-- The variable that the statement gives a value to. -/
def defines : Statement → Option Var
  | .constructor _ _ result
  | .method _ _ _ result
  | .reflection _ _ result => result
  | .constant _ result
  | .null result
  | .fieldRead _ _ result
  | .newArray _ result => some result
  | .assignment _ _ => none

/-- The variables that the statement reads, in order and with repetitions. -/
def uses : Statement → List Var
  | .constructor _ args _
  | .reflection _ args _ => args.filterMap Operand.var?
  | .method _ callee args _ => (callee.toList ++ args).filterMap Operand.var?
  | .fieldRead _ owner _ => owner.toList.filterMap Operand.var?
  | .assignment (.element array _) value => array :: value.var?.toList
  | .assignment (.field _ owner) value => owner.toList ++ value.var?.toList
  | .constant _ _
  | .null _
  | .newArray _ _ => []

/-- What the statement calls, if it is a call. -/
def attribution : Statement → Option Callable
  | .constructor handle _ _ => some (.constructor handle)
  | .method handle _ _ _ => some (.method handle)
  | .reflection helper _ _ => some (.helper helper)
  | _ => none

/-- Whether the statement calls a reflection helper. -/
def isReflection : Statement → Bool
  | .reflection _ _ _ => true
  | _ => false

/-- Whether a search may change the statement; helper calls are fixed. -/
def isMutable (statement : Statement) : Bool :=
  !statement.isReflection

/-- Whether two lists of operands agree, floating-point constants as numbers. -/
def sameOperands (left right : List Operand) : Bool :=
  left.length == right.length && (left.zip right).all fun (x, y) => x.same y

/-- Whether two statements are equal, floating-point constants as numbers. -/
def same : Statement → Statement → Bool
  | .constructor handle args result, .constructor handle' args' result' =>
    handle == handle' && sameOperands args args' && result == result'
  | .method handle callee args result, .method handle' callee' args' result' =>
    handle == handle' && sameOperands callee.toList callee'.toList && sameOperands args args'
      && result == result'
  | .reflection helper args result, .reflection helper' args' result' =>
    helper == helper' && sameOperands args args' && result == result'
  | .constant value result, .constant value' result' => value.same value' && result == result'
  | .fieldRead field owner result, .fieldRead field' owner' result' =>
    field == field' && sameOperands owner.toList owner'.toList && result == result'
  | .assignment target value, .assignment target' value' =>
    target == target' && value.same value'
  | left, right => left == right

end Statement

end TestPlan
