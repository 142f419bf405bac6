import TestPlan.Plan.Basic

/-! Equality of plans, in which floating-point values are compared as numbers. -/

namespace TestPlan

/-- Whether two literals are equal, floating-point ones as numbers. -/
def Literal.same : Literal → Literal → Bool
  | .float x, .float y => x.numericEq y
  | .double x, .double y => x.numericEq y
  | left, right => left == right

mutual

/-- Whether two plans have the same name and describe the same value. -/
def Plan.same : Plan → Plan → Bool
  | .mk name kind, .mk name' kind' => name == name' && kind.same kind'

/-- Whether two kinds describe the same value. -/
def PlanKind.same : PlanKind → PlanKind → Bool
  | .actions steps, .actions steps' => sameActions steps steps'
  | .reflection steps, .reflection steps' => sameReflectiveActions steps steps'
  | .testCall call, .testCall call' => call.same call'
  | .primitive value, .primitive value' => value.same value'
  | .text value, .text value' => value == value'
  | .mock type, .mock type' => type == type'
  | .unknown type, .unknown type' => type == type'
  | _, _ => false

/-- Whether two direct steps are the same. -/
def Action.same : Action → Action → Bool
  | .arrayWrite index value, .arrayWrite index' value' =>
    index.same index' && value.same value'
  | .constructorCall constructor args, .constructorCall constructor' args' =>
    constructor == constructor' && samePlans args args'
  | .externalConstructorCall constructor args, .externalConstructorCall constructor' args' =>
    constructor == constructor' && samePlans args args'
  | .innerClassConstructorCall constructor outer args,
    .innerClassConstructorCall constructor' outer' args' =>
    constructor == constructor' && outer.same outer' && samePlans args args'
  | .defaultConstructorCall className, .defaultConstructorCall className' =>
    className == className'
  | .enumValueCreation className name, .enumValueCreation className' name' =>
    className == className' && name == name'
  | .methodCall method args, .methodCall method' args' =>
    method == method' && samePlans args args'
  | .externalMethodCall method receiver args, .externalMethodCall method' receiver' args' =>
    method == method' && sameOptional receiver receiver' && samePlans args args'
  | .staticMethodCall method args, .staticMethodCall method' args' =>
    method == method' && samePlans args args'
  | .fieldGetter receiver field, .fieldGetter receiver' field' =>
    receiver.same receiver' && field == field'
  | .staticFieldGetter field, .staticFieldGetter field' => field == field'
  | .fieldSetter field value, .fieldSetter field' value' =>
    field == field' && value.same value'
  | .staticFieldSetter field value, .staticFieldSetter field' value' =>
    field == field' && value.same value'
  | .newArray type length, .newArray type' length' => type == type' && length.same length'
  | .newArrayWithInitializer type elements, .newArrayWithInitializer type' elements' =>
    type == type' && samePlans elements elements'
  | .classConstantGetter type, .classConstantGetter type' => type == type'
  | .arrayClassConstantGetter elementType, .arrayClassConstantGetter elementType' =>
    elementType.same elementType'
  | _, _ => false

/-- Whether two reflective steps are the same. -/
def ReflectiveAction.same : ReflectiveAction → ReflectiveAction → Bool
  | .newInstance type, .newInstance type' => type == type'
  | .newArray type length, .newArray type' length' => type == type' && length.same length'
  | .arrayWrite index value, .arrayWrite index' value' =>
    index.same index' && value.same value'
  | .arrayRead array index elementType, .arrayRead array' index' elementType' =>
    array.same array' && index.same index' && elementType == elementType'
  | .setField field value, .setField field' value' => field == field' && value.same value'
  | .setStaticField field value, .setStaticField field' value' =>
    field == field' && value.same value'
  | .getField receiver field, .getField receiver' field' =>
    receiver.same receiver' && field == field'
  | .getStaticField field, .getStaticField field' => field == field'
  | _, _ => false

/-- Whether two test calls are the same. -/
def TestCall.same : TestCall → TestCall → Bool
  | .mk method receiver args, .mk method' receiver' args' =>
    method == method' && sameOptional receiver receiver' && samePlans args args'

/-- Whether two lists of plans agree item by item. -/
def samePlans : List Plan → List Plan → Bool
  | [], [] => true
  | plan :: rest, plan' :: rest' => plan.same plan' && samePlans rest rest'
  | _, _ => false

/-- Whether two optional plans are both absent or the same. -/
def sameOptional : Option Plan → Option Plan → Bool
  | none, none => true
  | some plan, some plan' => plan.same plan'
  | _, _ => false

/-- Whether two lists of direct steps agree item by item. -/
def sameActions : List Action → List Action → Bool
  | [], [] => true
  | step :: rest, step' :: rest' => step.same step' && sameActions rest rest'
  | _, _ => false

/-- Whether two lists of reflective steps agree item by item. -/
def sameReflectiveActions : List ReflectiveAction → List ReflectiveAction → Bool
  | [], [] => true
  | step :: rest, step' :: rest' => step.same step' && sameReflectiveActions rest rest'
  | _, _ => false

end

end TestPlan
