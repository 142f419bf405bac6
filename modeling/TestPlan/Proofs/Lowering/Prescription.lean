import Mathlib.Data.List.Forall2
import TestPlan.Lowering.Compile
import TestPlan.Proofs.Lowering.Moves
import TestPlan.Proofs.Plan.Needed

/-!
Which statements a plan prescribes, told by the finished test alone: one rule for each kind of
step, whatever else the test holds and in whatever order it has been compiled.
-/

namespace TestPlan

/-! ### Variables and operands -/

/-- What a test is compiled from. -/
structure Setting (ρ : Type) where
  config : CompilerConfig
  loader : ρ
  roots : List Plan

namespace CompiledTest

/-- The statement at a position. -/
def At (built : CompiledTest) (position : Nat) (statement : Statement) : Prop :=
  built.test.statements[position]? = some statement

/-- The variable that holds the value of a plan, with its type. -/
structure Owns (built : CompiledTest) (owner : String) (type : RuntimeType) (var : Var) :
    Prop where
  bound : built.bindings.get? owner = some var
  typed : built.test.typeOf? var = some type

/--
The operand that stands for a plan in the statement at a position: the variable of the plan when
it is defined before, and otherwise the constant of the plan.
-/
inductive StandsFor (built : CompiledTest) (position : Nat) (plan : Plan) : Operand → Prop
  | var {var : Var} {earlier : Nat} : built.bindings.get? plan.name = some var →
      built.test.definedAt? var = some earlier → earlier < position →
        StandsFor built position plan (.var var)
  | constant {value : Constant} : plan.constant? = some value →
      (∀ var, built.bindings.get? plan.name = some var →
        ∃ later, built.test.definedAt? var = some later ∧ position ≤ later) →
        StandsFor built position plan (.constant value)

/-- The operands that stand for plans, one by one. -/
def StandForAll (built : CompiledTest) (position : Nat) : List Plan → List Operand → Prop :=
  List.Forall₂ (built.StandsFor position)

/-- Where a call puts its result: into the variable of a plan when one is given. -/
inductive Receives (built : CompiledTest) (type : RuntimeType) : Option String → Option Var → Prop
  | nothing : Receives built type none none
  | owner {owner : String} {var : Var} : built.Owns owner type var →
      Receives built type (some owner) (some var)

end CompiledTest

namespace Setting

variable {ρ : Type} [ClassLoading ρ] (setting : Setting ρ) (built : CompiledTest)

/-- What a lookup finds with a loader that has done nothing but load classes. -/
def Finds {α : Type} (lookup : Lookup ρ α) (found : α) : Prop :=
  ∃ before after, Loads setting.loader before ∧ lookup before = .ok found after

/-! ### Direct steps -/

/-- The call of a method or constructor. -/
inductive Calls (method : MethodReference) (callee : Option Operand) (args : List Operand)
    (owner : Option String) : Statement → Prop
  | constructor {loaded : LoadedClass} {handle : ConstructorHandle} {result : Option Var} :
      method.isConstructor = true →
      setting.Finds (Resolve.constructor method) (loaded, handle) →
      built.Receives loaded.type owner result →
        Calls method callee args owner (.constructor handle args result)
  | method {handle : MethodHandle} {type : RuntimeType} {result : Option Var} :
      method.isConstructor = false →
      setting.Finds (Resolve.method method) handle →
      (owner.isSome = true → setting.Finds (Resolve.runtimeType method.returns) type ∧
        type ≠ .void) →
      built.Receives type owner result →
        Calls method callee args owner (.method handle callee args result)

/-- The statement of a step that has one statement. -/
inductive Lowers (owner : String) (position : Nat) : Action → Statement → Prop
  | arrayWrite {index value : Plan} {array : Var} {place : Nat} {operand : Operand} :
      built.bindings.get? owner = some array →
      Lower.literalIndex index = .ok place →
      built.StandsFor position value operand →
        Lowers owner position (.arrayWrite index value) (.assignment (.element array place) operand)
  | constructorCall {constructor : MethodReference} {args : List Plan} {operands : List Operand}
      {statement : Statement} :
      built.StandForAll position args operands →
      setting.Calls built constructor none operands (some owner) statement →
        Lowers owner position (.constructorCall constructor args) statement
  | externalConstructorCall {constructor : MethodReference} {args : List Plan}
      {operands : List Operand} {statement : Statement} :
      built.StandForAll position args operands →
      setting.Calls built constructor none operands (some owner) statement →
        Lowers owner position (.externalConstructorCall constructor args) statement
  | defaultConstructorCall {className : String} {loaded : LoadedClass}
      {handle : ConstructorHandle} {result : Var} :
      setting.Finds (Resolve.defaultConstructor className) (loaded, handle) →
      built.Owns owner loaded.type result →
        Lowers owner position (.defaultConstructorCall className)
          (.constructor handle [] (some result))
  | enumValueCreation {className name : String} {loaded : LoadedClass} {constant : Constant}
      {result : Var} :
      setting.Finds (Resolve.loadOwner className) loaded →
      setting.Finds (Resolve.enumConstant loaded name) constant →
      built.Owns owner loaded.type result →
        Lowers owner position (.enumValueCreation className name) (.constant constant result)
  | methodCall {method : MethodReference} {args : List Plan} {receiver : Var}
      {operands : List Operand} {statement : Statement} :
      built.bindings.get? owner = some receiver →
      built.StandForAll position args operands →
      setting.Calls built method (some (.var receiver)) operands none statement →
        Lowers owner position (.methodCall method args) statement
  | externalMethodCall {method : MethodReference} {receiver : Option Plan} {args : List Plan}
      {callee : Option Operand} {operands : List Operand} {statement : Statement} :
      (method.isConstructor = false →
        built.StandForAll position receiver.toList callee.toList) →
      built.StandForAll position args operands →
      setting.Calls built method callee operands (some owner) statement →
        Lowers owner position (.externalMethodCall method receiver args) statement
  | staticMethodCall {method : MethodReference} {args : List Plan} {operands : List Operand}
      {statement : Statement} :
      built.StandForAll position args operands →
      setting.Calls built method none operands none statement →
        Lowers owner position (.staticMethodCall method args) statement
  | fieldGetter {receiver : Plan} {field : FieldReference} {handle : FieldHandle}
      {type : RuntimeType} {object : Operand} {result : Var} :
      setting.Finds (Resolve.field field) handle →
      setting.Finds (Resolve.runtimeType field.type) type →
      built.StandsFor position receiver object →
      built.Owns owner type result →
        Lowers owner position (.fieldGetter receiver field) (.fieldRead handle (some object) result)
  | staticFieldGetter {field : FieldReference} {handle : FieldHandle} {type : RuntimeType}
      {result : Var} :
      setting.Finds (Resolve.field field) handle →
      setting.Finds (Resolve.runtimeType field.type) type →
      built.Owns owner type result →
        Lowers owner position (.staticFieldGetter field) (.fieldRead handle none result)
  | fieldSetter {field : FieldReference} {value : Plan} {handle : FieldHandle} {receiver : Var}
      {operand : Operand} :
      setting.Finds (Resolve.field field) handle →
      built.bindings.get? owner = some receiver →
      built.StandsFor position value operand →
        Lowers owner position (.fieldSetter field value)
          (.assignment (.field handle (some receiver)) operand)
  | staticFieldSetter {field : FieldReference} {value : Plan} {handle : FieldHandle}
      {operand : Operand} :
      setting.Finds (Resolve.field field) handle →
      built.StandsFor position value operand →
        Lowers owner position (.staticFieldSetter field value)
          (.assignment (.field handle none) operand)
  | newArray {type : ValueType} {length : Plan} {found : RuntimeType} {size : Nat}
      {result : Var} :
      setting.Finds (Resolve.runtimeType type) found → found.isArray = true →
      Lower.literalIndex length = .ok size →
      built.Owns owner found result →
        Lowers owner position (.newArray type length) (.newArray size result)
  | classConstantGetter {type : ValueType} {classType value : RuntimeType} {result : Var} :
      setting.Finds (Resolve.typeNamed classClass) classType →
      setting.Finds (Resolve.runtimeType type) value →
      built.Owns owner classType result →
        Lowers owner position (.classConstantGetter type) (.constant (.classObject value) result)

/-- The statements that store the elements of an array, one for each of its places. -/
inductive Stores (array : Var) : Nat → List Plan → List Nat → Prop
  | nil {place : Nat} : Stores array place [] []
  | cons {place position : Nat} {element : Plan} {elements : List Plan} {operand : Operand}
      {positions : List Nat} :
      built.StandsFor position element operand →
      built.At position (.assignment (.element array place) operand) →
      Stores array (place + 1) elements positions →
        Stores array place (element :: elements) (position :: positions)

/-- The statements of a direct step. -/
inductive Prescribes (owner : String) : Action → List Nat → Prop
  | one {step : Action} {position : Nat} {statement : Statement} :
      setting.Lowers built owner position step statement → built.At position statement →
        Prescribes owner step [position]
  | initializer {type : ValueType} {elements : List Plan} {found : RuntimeType} {array : Var}
      {position : Nat} {positions : List Nat} :
      setting.Finds (Resolve.runtimeType type) found → found.isArray = true →
      built.Owns owner found array →
      built.At position (.newArray elements.length array) →
      Stores built array 0 elements positions →
        Prescribes owner (.newArrayWithInitializer type elements) (position :: positions)
  /-- The class of an array type is that of an empty array of its elements. -/
  | arrayClass {elementType : Plan} {element : Operand} {allocate getClass : MethodHandle}
      {arrayType classType : RuntimeType} {array result : Var} {position : Nat} :
      built.StandsFor position elementType element →
      setting.Finds
        (Resolve.methodNamed reflectArrayClass "newInstance" [classClass, "int"]) allocate →
      setting.Finds (Resolve.typeNamed allocate.returns) arrayType →
      setting.Finds (Resolve.methodNamed objectClass "getClass" []) getClass →
      setting.Finds (Resolve.typeNamed classClass) classType →
      built.test.typeOf? array = some arrayType →
      built.At position (.method allocate none [element, .constant (.int 0)] (some array)) →
      built.Owns owner classType result →
      built.At (position + 1) (.method getClass (some (.var array)) [] (some result)) →
        Prescribes owner (.arrayClassConstantGetter elementType) [position, position + 1]

/-! ### Reflective steps -/

/-- A routine of the helper class. -/
def FindsRoutine (name : String) (routine : HelperRoutine) : Prop :=
  setting.Finds (Resolve.helper setting.config.helpers.binaryName name) routine

/-- The routine of a family that serves the type of a name. -/
def FindsFamily (purpose : HelperPurpose) (type : String) (routine : HelperRoutine) : Prop :=
  setting.FindsRoutine ((setting.config.helpers.family purpose).select type) routine

/-- The routine of a family that serves the type of an operand. -/
def FindsOperand (purpose : HelperPurpose) (operand : Operand) (routine : HelperRoutine) : Prop :=
  ∃ type, built.test.operandTypeName? operand = some type ∧
    setting.FindsFamily purpose type routine

/-- The operands by which the helpers find a field. -/
def Locates (field : FieldReference) (locator : List Operand) : Prop :=
  ∃ loaded, setting.Finds (Resolve.loadOwner field.owner) loaded ∧
    locator = [.constant (.classObject loaded.type), .constant (.text field.name)]

/-- The arguments for a new array: only the routine for all types is told the element type. -/
def arrayArguments (type : RuntimeType) (length : Operand) : List Operand :=
  let element := (type.component?.map RuntimeType.typeName).getD ""
  match setting.config.helpers.newArray.specializedFor? element with
  | some _ => [length]
  | none => [.constant (.text element), length]

/-- The statement of a reflective step that has one statement. -/
inductive Reflects (owner : String) (position : Nat) : ReflectiveAction → Statement → Prop
  | newInstance {type : ValueType} {found : RuntimeType} {helper : HelperRoutine} {result : Var} :
      setting.Finds (Resolve.runtimeType type) found →
      setting.FindsRoutine setting.config.helpers.newInstance helper →
      built.Owns owner found result →
        Reflects owner position (.newInstance type)
          (.reflection helper [.constant (.text found.typeName)] (some result))
  | newArray {type : ValueType} {length : Plan} {found : RuntimeType} {helper : HelperRoutine}
      {size : Operand} {result : Var} :
      setting.Finds (Resolve.runtimeType type) found → found.isArray = true →
      built.StandsFor position length size →
      setting.FindsFamily .newArray ((found.component?.map RuntimeType.typeName).getD "") helper →
      built.Owns owner found result →
        Reflects owner position (.newArray type length)
          (.reflection helper (setting.arrayArguments found size) (some result))
  | arrayWrite {index value : Plan} {array : Var} {place operand : Operand}
      {helper : HelperRoutine} :
      built.bindings.get? owner = some array →
      built.StandsFor position index place →
      built.StandsFor position value operand →
      setting.FindsOperand built .setElement operand helper →
        Reflects owner position (.arrayWrite index value)
          (.reflection helper [.var array, place, operand] none)
  | arrayRead {array index : Plan} {elementType : ValueType} {type : RuntimeType}
      {object place : Operand} {helper : HelperRoutine} {result : Var} :
      built.StandsFor position array object →
      built.StandsFor position index place →
      setting.Finds (Resolve.runtimeType elementType) type →
      setting.FindsFamily .getElement type.typeName helper →
      built.Owns owner type result →
        Reflects owner position (.arrayRead array index elementType)
          (.reflection helper [object, place] (some result))
  | setField {field : FieldReference} {value : Plan} {receiver : Var} {operand : Operand}
      {helper : HelperRoutine} {locator : List Operand} :
      built.bindings.get? owner = some receiver →
      built.StandsFor position value operand →
      setting.FindsOperand built .setField operand helper →
      setting.Locates field locator →
        Reflects owner position (.setField field value)
          (.reflection helper (.var receiver :: locator ++ [operand]) none)
  | getField {receiver : Plan} {field : FieldReference} {type : RuntimeType} {object : Operand}
      {helper : HelperRoutine} {locator : List Operand} {result : Var} :
      built.StandsFor position receiver object →
      setting.Finds (Resolve.runtimeType field.type) type →
      setting.FindsFamily .getField type.typeName helper →
      setting.Locates field locator →
      built.Owns owner type result →
        Reflects owner position (.getField receiver field)
          (.reflection helper (object :: locator) (some result))

/-- A null that is made for the statement after it. -/
def NullAt (position : Nat) (var : Var) : Prop :=
  built.At position (.null var) ∧
    ∃ type, setting.Finds (Resolve.typeNamed objectClass) type ∧
      built.test.typeOf? var = some type

/-- The statements of a reflective step; an access to a static field makes a null first. -/
inductive PrescribesReflective (owner : String) : ReflectiveAction → List Nat → Prop
  | one {step : ReflectiveAction} {position : Nat} {statement : Statement} :
      setting.Reflects built owner position step statement → built.At position statement →
        PrescribesReflective owner step [position]
  | setStaticField {field : FieldReference} {value : Plan} {position : Nat} {object : Var}
      {operand : Operand} {helper : HelperRoutine} {locator : List Operand} :
      built.StandsFor position value operand →
      setting.FindsOperand built .setField operand helper →
      setting.Locates field locator →
      setting.NullAt built position object →
      built.At (position + 1) (.reflection helper (.var object :: locator ++ [operand]) none) →
        PrescribesReflective owner (.setStaticField field value) [position, position + 1]
  | getStaticField {field : FieldReference} {type : RuntimeType} {position : Nat}
      {object result : Var} {helper : HelperRoutine} {locator : List Operand} :
      setting.Finds (Resolve.runtimeType field.type) type →
      setting.FindsFamily .getField type.typeName helper →
      setting.Locates field locator →
      setting.NullAt built position object →
      built.Owns owner type result →
      built.At (position + 1) (.reflection helper (.var object :: locator) (some result)) →
        PrescribesReflective owner (.getStaticField field) [position, position + 1]

/-! ### Plans and tests -/

/-- The statements of the step at an index of a plan. -/
def PrescribesStep (plan : Plan) (index : Nat) (positions : List Nat) : Prop :=
  match plan.kind with
  | .actions steps => ∃ step, steps[index]? = some step ∧
      setting.Prescribes built plan.name step positions
  | .reflection steps => ∃ step, steps[index]? = some step ∧
      setting.PrescribesReflective built plan.name step positions
  | _ => False

/-- The only statement of a literal or text. -/
inductive PrescribesLeaf (plan : Plan) (position : Nat) : Prop
  | literal {value : Literal} {constant : Constant} {type : RuntimeType} {result : Var} :
      plan.kind = .primitive value → value.constant? = some constant →
      constant.primitive?.map RuntimeType.primitive = some type →
      built.Owns plan.name type result →
      built.At position (.constant constant result) → PrescribesLeaf plan position
  | text {text : String} {type : RuntimeType} {result : Var} :
      plan.kind = .text text →
      setting.Finds (Resolve.typeNamed stringClass) type →
      built.Owns plan.name type result →
      built.At position (.constant (.text text) result) → PrescribesLeaf plan position
  | null {type : RuntimeType} {result : Var} :
      plan.isNull = true →
      setting.Finds (Resolve.typeNamed objectClass) type →
      built.Owns plan.name type result →
      built.At position (.null result) → PrescribesLeaf plan position

/-- The statement of the call under test. -/
def PrescribesCall (call : TestCall) (position : Nat) : Prop :=
  match call with
  | .mk method receiver args => ∃ callee operands statement,
      (method.isConstructor = false →
        built.StandForAll position receiver.toList callee.toList) ∧
      built.StandForAll position args operands ∧
      setting.Calls built method callee operands none statement ∧ built.At position statement

end Setting

/-! ### Origins -/

/-- Where a statement of a test comes from. -/
inductive Origin where
  /-- A step of a plan, by the name of the plan and the index of the step. -/
  | step (plan : String) (index : Nat)
  /-- A literal or text that has got a variable. -/
  | leaf (plan : String)
  /-- The call under test. -/
  | call
  deriving DecidableEq

/-- The name of the plan that a statement comes from. -/
def Origin.plan? : Origin → Option String
  | .step plan _
  | .leaf plan => some plan
  | .call => none

/-- The positions of the statements that come from an origin. -/
def positionsOf (origins : List Origin) (origin : Origin) : List Nat :=
  (List.range origins.length).filter fun position => origins[position]? == some origin

/--
A test in which every statement comes from one origin, and in which the statements of every
origin are those that its plan prescribes.
-/
structure Faithful {ρ : Type} [ClassLoading ρ] (setting : Setting ρ) (call : TestCall)
    (built : CompiledTest) (origins : List Origin) : Prop where
  /-- Every statement has one origin. -/
  covers : origins.length = built.test.statements.length
  /-- Every step of a needed plan has statements, and no other step has. -/
  step_iff : ∀ name index, .step name index ∈ origins ↔
    ∃ plan, Needed setting.roots plan ∧ plan.name = name ∧ index < plan.stepCount
  /-- A literal or text has a statement if it is a root, or if it is null and read. -/
  leaf_iff : ∀ name, .leaf name ∈ origins ↔ ∃ plan, plan.name = name ∧
    (plan ∈ setting.roots ∧ plan.isLeaf = true ∨ Needed setting.roots plan ∧ plan.isNull = true)
  /-- The call comes last, and once. -/
  call_last : ∃ before, origins = before ++ [.call] ∧ .call ∉ before
  /-- The steps of a plan are carried out in order. -/
  in_order : ∀ name first second, first < second →
    ∀ position ∈ positionsOf origins (.step name first),
      ∀ later ∈ positionsOf origins (.step name second), position < later
  /-- The statements of a plan are those that its steps prescribe. -/
  steps : ∀ plan, Needed setting.roots plan → 0 < plan.stepCount →
    ∃ lowered, Needed setting.roots lowered ∧ lowered.name = plan.name ∧
      lowered.stepCount = plan.stepCount ∧ ∀ index < lowered.stepCount,
        setting.PrescribesStep built lowered index
          (positionsOf origins (.step lowered.name index))
  leaves : ∀ name, .leaf name ∈ origins → ∃ plan position, Needed setting.roots plan ∧
    plan.name = name ∧ positionsOf origins (.leaf name) = [position] ∧
      setting.PrescribesLeaf built plan position
  last : setting.PrescribesCall built call (built.test.statements.length - 1)

end TestPlan
