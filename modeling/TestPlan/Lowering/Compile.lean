import TestPlan.Lowering.Direct
import TestPlan.Lowering.Reflective

/-!
Compiling plans, each at most once: operands are compiled before the statement that reads them,
and literals that are only read become constants of that statement.
-/

namespace TestPlan.Lower

variable {ρ : Type} [ClassLoading ρ]

mutual

/-- Appends the statements of a plan, given its name and kind. -/
def lowerKind (config : CompilerConfig) (owner : String) : PlanKind → Lowering ρ Unit
  | .actions steps => lowerActions config owner steps
  | .reflection steps => lowerReflectiveActions config owner steps
  | .testCall call => lowerTestCall config call
  | .primitive value => do
    let _ ← literalLeaf owner value
  | .text value => do
    let _ ← textLeaf owner value
  | .mock type => throw (.unsupportedPlan owner (PlanKind.mock type).label type)
  | .unknown type => throw (.unsupportedPlan owner (PlanKind.unknown type).label type)

/-- Appends the statements of direct steps. -/
def lowerActions (config : CompilerConfig) (owner : String) : List Action → Lowering ρ Unit
  | [] => return ()
  | step :: rest => do
    lowerAction config owner step
    lowerActions config owner rest

/-- Appends the statements of reflective steps. -/
def lowerReflectiveActions (config : CompilerConfig) (owner : String) :
    List ReflectiveAction → Lowering ρ Unit
  | [] => return ()
  | step :: rest => do
    lowerReflectiveAction config owner step
    lowerReflectiveActions config owner rest

/-- Appends the statements of a direct step. -/
def lowerAction (config : CompilerConfig) (owner : String) : Action → Lowering ρ Unit
  | .arrayWrite index value => do
    let array ← ownerVar owner
    let index ← ofExcept (literalIndex index)
    emit (.assignment (.element array index) (← operand config value))
  | .constructorCall constructor args
  | .externalConstructorCall constructor args =>
    invoke constructor (pure none) (operands config args) (some owner)
  | .innerClassConstructorCall _ _ _ => throw .innerClassConstructor
  | .defaultConstructorCall className => createDefault owner className
  | .enumValueCreation className name => enumValue owner className name
  | .methodCall method args => do
    let receiver ← ownerVar owner
    invoke method (pure (some (.var receiver))) (operands config args) none
  | .externalMethodCall method receiver args =>
    invoke method (receiverOperand config receiver) (operands config args) (some owner)
  | .staticMethodCall method args => invoke method (pure none) (operands config args) none
  | .fieldGetter receiver field => readField owner field (some <$> operand config receiver)
  | .staticFieldGetter field => readField owner field (pure none)
  | .fieldSetter field value => do
    let receiver ← ownerVar owner
    writeField (some receiver) field (operand config value)
  | .staticFieldSetter field value => writeField none field (operand config value)
  | .newArray type length => newArray owner type (literalIndex length)
  | .newArrayWithInitializer type elements => do
    let type ← arrayType owner type
    let array ← define owner type (.newArray elements.length)
    storeElements config array 0 elements
  | .classConstantGetter type => classConstant owner type
  | .arrayClassConstantGetter elementType =>
    arrayClassConstant owner (operand config elementType)

/-- Appends the statements of a reflective step. -/
def lowerReflectiveAction (config : CompilerConfig) (owner : String) :
    ReflectiveAction → Lowering ρ Unit
  | .newInstance type => createUninitialized config.helpers owner type
  | .newArray type length => createArray config.helpers owner type (operand config length)
  | .arrayWrite index value => do
    let array ← ownerVar owner
    setElement config.helpers array (operand config index) (operand config value)
  | .arrayRead array index elementType =>
    getElement config.helpers owner (operand config array) (operand config index) elementType
  | .setField field value => do
    let receiver ← ownerVar owner
    setField config.helpers (some (.var receiver)) field (operand config value)
  | .setStaticField field value =>
    setField config.helpers none field (operand config value)
  | .getField receiver field => do
    let receiver ← operand config receiver
    getField config.helpers owner (some receiver) field
  | .getStaticField field => getField config.helpers owner none field

/-- Appends the call under test, after which no statement may follow. -/
def lowerTestCall (config : CompilerConfig) : TestCall → Lowering ρ Unit
  | .mk method receiver args => do
    invoke method (receiverOperand config receiver) (operands config args) none
    modify fun session => { session with terminated := true }

/-- The value of a plan: its variable, or a constant when it is a literal without one. -/
def operand (config : CompilerConfig) : Plan → Lowering ρ Operand
  | .mk name kind => do
    match (← get).bindings.get? name with
    | some var => return .var var
    | none =>
      match kind with
      | .primitive value =>
        match value.constant? with
        | some constant => return .constant constant
        | none => return .var (← literalLeaf name value)
      | .text value => return .constant (.text value)
      | kind =>
        once config name (lowerKind config name kind)
        match (← get).bindings.get? name with
        | some var => return .var var
        | none => throw (.noValue name)

/-- The values of plans, in order. -/
def operands (config : CompilerConfig) : List Plan → Lowering ρ (List Operand)
  | [] => return []
  | plan :: rest => do
    let first ← operand config plan
    return first :: (← operands config rest)

/-- The value of the plan of a receiver, if there is one. -/
def receiverOperand (config : CompilerConfig) : Option Plan → Lowering ρ (Option Operand)
  | none => return none
  | some plan => some <$> operand config plan

/-- Stores the values of plans in an array, from a position on. -/
def storeElements (config : CompilerConfig) (array : Var) (position : Nat) :
    List Plan → Lowering ρ Unit
  | [] => return ()
  | element :: rest => do
    emit (.assignment (.element array position) (← operand config element))
    storeElements config array (position + 1) rest

end

/-! ### Whole tests -/

/-- Compiles a plan that is a root of a test. -/
def compile (config : CompilerConfig) (plan : Plan) : Lowering ρ Unit :=
  once config plan.name (lowerKind config plan.name plan.kind)

/-- Compiles every plan that a test needs, in the order of preparation. -/
def compileParameters (config : CompilerConfig) (parameters : Parameters) : Lowering ρ Unit :=
  parameters.roots.forM (compile config)

/-- Appends the call under test. -/
def compileTestCall (config : CompilerConfig) (call : TestCall) : Lowering ρ Unit :=
  lowerTestCall config call

/-- Checks that plans of one name are equal, when the configuration asks for it. -/
def checkNames (sharing : Sharing) (config : CompilerConfig) (parameters : Parameters) :
    Except CompileError Unit :=
  if config.validatePlans then
    match PlanGraph.ofRoots sharing parameters.roots >>= PlanGraph.validate with
    | .ok () => .ok ()
    | .error error => .error (.planGraph error)
  else .ok ()

/-- Compiles the test of a method: first all it needs, then the call. -/
def compileTest (sharing : Sharing) (config : CompilerConfig) (method : MethodReference)
    (parameters : Parameters) : Lowering ρ CompiledTest := do
  ofExcept (checkNames sharing config parameters)
  compileParameters config parameters
  compileTestCall config (parameters.testCall method)
  return (← get).compiled

end TestPlan.Lower
