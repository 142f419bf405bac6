import TestPlan.ClassModel.Loader
import TestPlan.Plan.Graph
import TestPlan.TestCase.Basic

/-! Why a plan cannot be compiled, and whose fault that is. -/

namespace TestPlan

/-- A sort of class member. -/
inductive MemberKind where
  | constructor
  | method
  | field
  | helper
  deriving DecidableEq, Repr

/-- The word for the sort of member in messages. -/
def MemberKind.label : MemberKind → String
  | .constructor => "constructor"
  | .method => "method"
  | .field => "field"
  | .helper => "helper routine"

/-- Why a plan cannot be compiled. -/
inductive CompileError where
  /-- A kind of plan that has no statements. -/
  | unsupportedPlan (plan kind : String) (type : ValueType)
  /-- An object of an inner class is to be created. -/
  | innerClassConstructor
  | enumConstantNotFound (className constant : String)
  | classNotFound (failure : ClassNotFound)
  | memberNotFound (className member : String) (kind : MemberKind)
  /-- A length or index is not an integer literal. -/
  | nonLiteralIndex (plan : String)
  | notAnArrayType (plan : String) (type : RuntimeType)
  /-- A step works on its owner before the owner has a value. -/
  | unboundOwner (plan : String)
  /-- A value is read from a plan that has none. -/
  | noValue (plan : String)
  /-- A plan takes the result of a method without one. -/
  | voidResult (plan : String) (method : MethodReference)
  /-- A plan is met while it is being compiled. -/
  | cyclicPlan (plan : String)
  | depthExceeded (limit : Nat)
  /-- A plan is given a value twice. -/
  | duplicateBinding (plan : String)
  /-- A statement would follow the call under test. -/
  | afterTestCall
  | testCase (error : TestCaseError)
  | planGraph (error : PlanGraphError)
  deriving DecidableEq

namespace CompileError

/-- The wording of a failure. -/
def message : CompileError → String
  | .unsupportedPlan plan kind type =>
    "unsupported " ++ kind ++ " plan `" ++ plan ++ "` of type " ++ type.display
  | .innerClassConstructor => "unimplemented: inner-class constructor calls"
  | .enumConstantNotFound className constant =>
    "enum constant `" ++ constant ++ "` not found in " ++ className
  | .classNotFound failure => failure.message
  | .memberNotFound className member kind =>
    kind.label ++ " `" ++ member ++ "` not found in " ++ className
  | .nonLiteralIndex plan => "plan `" ++ plan ++ "` must be a non-negative integer literal"
  | .notAnArrayType plan type =>
    "plan `" ++ plan ++ "` requires an array type, found " ++ type.typeName
  | .unboundOwner plan => "plan `" ++ plan ++ "` is used before an action binds its value"
  | .noValue plan => "plan `" ++ plan ++ "` produces no value"
  | .voidResult plan method =>
    "plan `" ++ plan ++ "` binds the result of void method " ++ method.display
  | .cyclicPlan plan => "plan `" ++ plan ++ "` depends on itself"
  | .depthExceeded limit => "plan nesting exceeds the limit of " ++ toString limit
  | .duplicateBinding plan => "plan `" ++ plan ++ "` is already bound"
  | .afterTestCall => "statement appended after the test call"
  | .testCase error => error.message
  | .planGraph error => error.message

/-- Whether plans and loaded classes disagree. -/
def isClassModelMismatch : CompileError → Bool
  | .classNotFound _
  | .memberNotFound _ _ _
  | .enumConstantNotFound _ _ => true
  | _ => false

/-- Whether the plan is well formed but of a sort that is not compiled. -/
def isUnsupported : CompileError → Bool
  | .unsupportedPlan _ _ _
  | .innerClassConstructor => true
  | _ => false

/-- Whether the plan itself is at fault. -/
def isContractViolation (error : CompileError) : Bool :=
  !error.isClassModelMismatch && !error.isUnsupported

end CompileError

end TestPlan
