import TestPlan.Proofs.Lowering.Prescription

/-!
For which step of which plan a statement stands in a test, and of which type the value is that a
plan gets. Nothing is asked of the plans, so plans of one name may differ.
-/

namespace TestPlan

/-! ### The types of the values that plans make -/

/-- The type of what a call gives: an object of the class itself for a constructor. -/
def MethodReference.valueType (method : MethodReference) : ValueType :=
  if method.isConstructor then .object method.owner else method.returns

/-- The type of the value that a direct step makes for its plan, if it makes it. -/
def Action.makes? : Action → Option ValueType
  | .constructorCall method _
  | .externalConstructorCall method _
  | .innerClassConstructorCall method _ _
  | .externalMethodCall method _ _ => some method.valueType
  | .defaultConstructorCall className
  | .enumValueCreation className _ => some (.object className)
  | .fieldGetter _ field
  | .staticFieldGetter field => some field.type
  | .newArray type _
  | .newArrayWithInitializer type _ => some type
  | .classConstantGetter _
  | .arrayClassConstantGetter _ => some (.ofClassName classClass)
  | .arrayWrite _ _
  | .methodCall _ _
  | .staticMethodCall _ _
  | .fieldSetter _ _
  | .staticFieldSetter _ _ => none

/-- The type of the value that a reflective step makes for its plan, if it makes it. -/
def ReflectiveAction.makes? : ReflectiveAction → Option ValueType
  | .newInstance type
  | .newArray type _
  | .arrayRead _ _ type => some type
  | .getField _ field
  | .getStaticField field => some field.type
  | .arrayWrite _ _
  | .setField _ _
  | .setStaticField _ _ => none

/-- The type of a literal; null is of the type that every object has. -/
def Literal.valueType (value : Literal) : ValueType :=
  (value.primitive?.map ValueType.primitive).getD (.ofClassName objectClass)

/-- The types of the values that a plan makes, one for each step that makes its value. -/
def Plan.madeTypes (plan : Plan) : List ValueType :=
  match plan.kind with
  | .actions steps => steps.filterMap Action.makes?
  | .reflection steps => steps.filterMap ReflectiveAction.makes?
  | .primitive value => [value.valueType]
  | .text _ => [.ofClassName stringClass]
  | .testCall _
  | .mock _
  | .unknown _ => []

/-! ### What stands for a plan in a statement -/

namespace CompiledTest

/-- An operand that denotes the value of a plan: its variable, or the constant that it is. -/
inductive Denotes (built : CompiledTest) (plan : Plan) : Operand → Prop
  | var {var : Var} : built.bindings.get? plan.name = some var → Denotes built plan (.var var)
  | constant {value : Constant} : plan.constant? = some value → Denotes built plan (.constant value)

/-- Operands that denote the values of plans, one by one. -/
def DenoteAll (built : CompiledTest) : List Plan → List Operand → Prop :=
  List.Forall₂ built.Denotes

end CompiledTest

/-! ### The statements of a step -/

namespace Setting

variable {ρ : Type} [ClassLoading ρ] (setting : Setting ρ) (built : CompiledTest)

/-- A statement for a call, whose operands denote a receiver and arguments. -/
inductive Invokes (method : MethodReference) (receiver : Option Plan) (args : List Plan)
    (target : Option String) (statement : Statement) : Prop
  /-- The receiver of a constructor is not read. -/
  | intro {callee : Option Operand} {operands : List Operand} :
      (method.isConstructor = false → built.DenoteAll receiver.toList callee.toList) →
      built.DenoteAll args operands →
      setting.Calls built method callee operands target statement →
        Invokes method receiver args target statement

/-- One of the statements of a direct step of a plan. -/
inductive Performs (owner : String) : Action → Statement → Prop
  | arrayWrite {index value : Plan} {array : Var} {place : Nat} {operand : Operand} :
      built.bindings.get? owner = some array →
      Lower.literalIndex index = .ok place → built.Denotes value operand →
        Performs owner (.arrayWrite index value) (.assignment (.element array place) operand)
  | constructorCall {constructor : MethodReference} {args : List Plan} {statement : Statement} :
      setting.Invokes built constructor none args (some owner) statement →
        Performs owner (.constructorCall constructor args) statement
  | externalConstructorCall {constructor : MethodReference} {args : List Plan}
      {statement : Statement} :
      setting.Invokes built constructor none args (some owner) statement →
        Performs owner (.externalConstructorCall constructor args) statement
  | defaultConstructorCall {className : String} {loaded : LoadedClass}
      {handle : ConstructorHandle} {result : Var} :
      setting.Finds (Resolve.defaultConstructor className) (loaded, handle) →
      built.Owns owner loaded.type result →
        Performs owner (.defaultConstructorCall className) (.constructor handle [] (some result))
  | enumValueCreation {className name : String} {loaded : LoadedClass} {constant : Constant}
      {result : Var} :
      setting.Finds (Resolve.loadOwner className) loaded →
      setting.Finds (Resolve.enumConstant loaded name) constant →
      built.Owns owner loaded.type result →
        Performs owner (.enumValueCreation className name) (.constant constant result)
  | methodCall {method : MethodReference} {args : List Plan} {receiver : Var}
      {operands : List Operand} {statement : Statement} :
      built.bindings.get? owner = some receiver → built.DenoteAll args operands →
      setting.Calls built method (some (.var receiver)) operands none statement →
        Performs owner (.methodCall method args) statement
  | externalMethodCall {method : MethodReference} {receiver : Option Plan} {args : List Plan}
      {statement : Statement} :
      setting.Invokes built method receiver args (some owner) statement →
        Performs owner (.externalMethodCall method receiver args) statement
  | staticMethodCall {method : MethodReference} {args : List Plan} {statement : Statement} :
      setting.Invokes built method none args none statement →
        Performs owner (.staticMethodCall method args) statement
  | fieldGetter {receiver : Plan} {field : FieldReference} {handle : FieldHandle}
      {type : RuntimeType} {object : Operand} {result : Var} :
      setting.Finds (Resolve.field field) handle →
      setting.Finds (Resolve.runtimeType field.type) type →
      built.Denotes receiver object → built.Owns owner type result →
        Performs owner (.fieldGetter receiver field) (.fieldRead handle (some object) result)
  | staticFieldGetter {field : FieldReference} {handle : FieldHandle} {type : RuntimeType}
      {result : Var} :
      setting.Finds (Resolve.field field) handle →
      setting.Finds (Resolve.runtimeType field.type) type → built.Owns owner type result →
        Performs owner (.staticFieldGetter field) (.fieldRead handle none result)
  | fieldSetter {field : FieldReference} {value : Plan} {handle : FieldHandle} {receiver : Var}
      {operand : Operand} :
      setting.Finds (Resolve.field field) handle →
      built.bindings.get? owner = some receiver → built.Denotes value operand →
        Performs owner (.fieldSetter field value)
          (.assignment (.field handle (some receiver)) operand)
  | staticFieldSetter {field : FieldReference} {value : Plan} {handle : FieldHandle}
      {operand : Operand} :
      setting.Finds (Resolve.field field) handle → built.Denotes value operand →
        Performs owner (.staticFieldSetter field value) (.assignment (.field handle none) operand)
  | newArray {type : ValueType} {length : Plan} {found : RuntimeType} {size : Nat}
      {result : Var} :
      setting.Finds (Resolve.runtimeType type) found → found.isArray = true →
      Lower.literalIndex length = .ok size → built.Owns owner found result →
        Performs owner (.newArray type length) (.newArray size result)
  | newArrayWithInitializer {type : ValueType} {elements : List Plan} {found : RuntimeType}
      {result : Var} :
      setting.Finds (Resolve.runtimeType type) found → found.isArray = true →
      built.Owns owner found result →
        Performs owner (.newArrayWithInitializer type elements) (.newArray elements.length result)
  | initialElement {type : ValueType} {elements : List Plan} {element : Plan} {place : Nat}
      {array : Var} {operand : Operand} :
      built.bindings.get? owner = some array → elements[place]? = some element →
      built.Denotes element operand →
        Performs owner (.newArrayWithInitializer type elements)
          (.assignment (.element array place) operand)
  | classConstantGetter {type : ValueType} {classType value : RuntimeType} {result : Var} :
      setting.Finds (Resolve.typeNamed classClass) classType →
      setting.Finds (Resolve.runtimeType type) value → built.Owns owner classType result →
        Performs owner (.classConstantGetter type) (.constant (.classObject value) result)
  /-- The class of an array type is asked of an array that is made for it. -/
  | allocate {elementType : Plan} {element : Operand} {allocate : MethodHandle}
      {arrayType : RuntimeType} {array : Var} :
      built.Denotes elementType element →
      setting.Finds
        (Resolve.methodNamed reflectArrayClass "newInstance" [classClass, "int"]) allocate →
      setting.Finds (Resolve.typeNamed allocate.returns) arrayType →
      built.test.typeOf? array = some arrayType →
        Performs owner (.arrayClassConstantGetter elementType)
          (.method allocate none [element, .constant (.int 0)] (some array))
  | arrayClassConstantGetter {elementType : Plan} {getClass : MethodHandle}
      {classType : RuntimeType} {array result : Var} :
      setting.Finds (Resolve.methodNamed objectClass "getClass" []) getClass →
      setting.Finds (Resolve.typeNamed classClass) classType → built.Owns owner classType result →
        Performs owner (.arrayClassConstantGetter elementType)
          (.method getClass (some (.var array)) [] (some result))

/-- The helper call of a reflective step of a plan, at a position of the test. -/
inductive PerformsReflective (owner : String) (position : Nat) :
    ReflectiveAction → Statement → Prop
  | newInstance {type : ValueType} {found : RuntimeType} {helper : HelperRoutine} {result : Var} :
      setting.Finds (Resolve.runtimeType type) found →
      setting.FindsRoutine setting.config.helpers.newInstance helper →
      built.Owns owner found result →
        PerformsReflective owner position (.newInstance type)
          (.reflection helper [.constant (.text found.typeName)] (some result))
  | newArray {type : ValueType} {length : Plan} {found : RuntimeType} {helper : HelperRoutine}
      {size : Operand} {result : Var} :
      setting.Finds (Resolve.runtimeType type) found → found.isArray = true →
      built.Denotes length size →
      setting.FindsFamily .newArray ((found.component?.map RuntimeType.typeName).getD "") helper →
      built.Owns owner found result →
        PerformsReflective owner position (.newArray type length)
          (.reflection helper (setting.arrayArguments found size) (some result))
  | arrayWrite {index value : Plan} {array : Var} {place operand : Operand}
      {helper : HelperRoutine} :
      built.bindings.get? owner = some array →
      built.Denotes index place → built.Denotes value operand →
      setting.FindsOperand built .setElement operand helper →
        PerformsReflective owner position (.arrayWrite index value)
          (.reflection helper [.var array, place, operand] none)
  | arrayRead {array index : Plan} {elementType : ValueType} {type : RuntimeType}
      {object place : Operand} {helper : HelperRoutine} {result : Var} :
      built.Denotes array object → built.Denotes index place →
      setting.Finds (Resolve.runtimeType elementType) type →
      setting.FindsFamily .getElement type.typeName helper → built.Owns owner type result →
        PerformsReflective owner position (.arrayRead array index elementType)
          (.reflection helper [object, place] (some result))
  | setField {field : FieldReference} {value : Plan} {receiver : Var} {operand : Operand}
      {helper : HelperRoutine} {locator : List Operand} :
      built.bindings.get? owner = some receiver → built.Denotes value operand →
      setting.FindsOperand built .setField operand helper → setting.Locates field locator →
        PerformsReflective owner position (.setField field value)
          (.reflection helper (.var receiver :: locator ++ [operand]) none)
  | getField {receiver : Plan} {field : FieldReference} {type : RuntimeType} {object : Operand}
      {helper : HelperRoutine} {locator : List Operand} {result : Var} :
      built.Denotes receiver object → setting.Finds (Resolve.runtimeType field.type) type →
      setting.FindsFamily .getField type.typeName helper → setting.Locates field locator →
      built.Owns owner type result →
        PerformsReflective owner position (.getField receiver field)
          (.reflection helper (object :: locator) (some result))
  /-- The null before it stands for the object of an access to a static field. -/
  | setStaticField {field : FieldReference} {value : Plan} {before : Nat} {object : Var}
      {operand : Operand} {helper : HelperRoutine} {locator : List Operand} :
      position = before + 1 → setting.NullAt built before object →
      built.Denotes value operand → setting.FindsOperand built .setField operand helper →
      setting.Locates field locator →
        PerformsReflective owner position (.setStaticField field value)
          (.reflection helper (.var object :: locator ++ [operand]) none)
  | getStaticField {field : FieldReference} {type : RuntimeType} {before : Nat}
      {object result : Var} {helper : HelperRoutine} {locator : List Operand} :
      position = before + 1 → setting.NullAt built before object →
      setting.Finds (Resolve.runtimeType field.type) type →
      setting.FindsFamily .getField type.typeName helper → setting.Locates field locator →
      built.Owns owner type result →
        PerformsReflective owner position (.getStaticField field)
          (.reflection helper (.var object :: locator) (some result))

end Setting

/-! ### Authors -/

/-- Whether a reflective step accesses a static field. -/
def ReflectiveAction.isStaticAccess : ReflectiveAction → Bool
  | .setStaticField _ _
  | .getStaticField _ => true
  | _ => false

/-- What the helper routine of a step is for; objects are made by a routine of their own. -/
def ReflectiveAction.purpose? : ReflectiveAction → Option HelperPurpose
  | .newInstance _ => none
  | .newArray _ _ => some .newArray
  | .arrayWrite _ _ => some .setElement
  | .arrayRead _ _ _ => some .getElement
  | .setField _ _
  | .setStaticField _ _ => some .setField
  | .getField _ _
  | .getStaticField _ => some .getField

/-- For what a statement has been appended. -/
inductive Author where
  /-- A direct step of a plan. -/
  | direct (plan : Plan) (step : Action)
  /-- A reflective step of a plan. -/
  | reflective (plan : Plan) (step : ReflectiveAction)
  /-- A literal or text that has got a variable. -/
  | leaf (plan : Plan)
  /-- The call under test. -/
  | call (call : TestCall)

namespace Setting

variable {ρ : Type} [ClassLoading ρ] (setting : Setting ρ)

/-- A needed plan has a direct step. -/
def HasAction (plan : Plan) (step : Action) : Prop :=
  Needed setting.roots plan ∧ ∃ steps, plan.kind = .actions steps ∧ step ∈ steps

/-- A needed plan has a reflective step. -/
def HasReflectiveAction (plan : Plan) (step : ReflectiveAction) : Prop :=
  Needed setting.roots plan ∧ ∃ steps, plan.kind = .reflection steps ∧ step ∈ steps

/-- The statement at a position stands there for its author. -/
inductive Wrote (built : CompiledTest) (position : Nat) : Author → Prop
  | direct {plan : Plan} {step : Action} {statement : Statement} :
      setting.HasAction plan step → built.At position statement →
      setting.Performs built plan.name step statement →
        Wrote built position (.direct plan step)
  | reflective {plan : Plan} {step : ReflectiveAction} {statement : Statement} :
      setting.HasReflectiveAction plan step → built.At position statement →
      setting.PerformsReflective built plan.name position step statement →
        Wrote built position (.reflective plan step)
  /-- The null for the object of an access to a static field, which comes next. -/
  | receiver {plan : Plan} {step : ReflectiveAction} {statement : Statement} :
      setting.HasReflectiveAction plan step → step.isStaticAccess = true →
      built.At (position + 1) statement →
      setting.PerformsReflective built plan.name (position + 1) step statement →
        Wrote built position (.reflective plan step)
  | leaf {plan : Plan} : Needed setting.roots plan → setting.PrescribesLeaf built plan position →
        Wrote built position (.leaf plan)
  | call {method : MethodReference} {receiver : Option Plan} {args : List Plan}
      {statement : Statement} :
      setting.Invokes built method receiver args none statement → built.At position statement →
        Wrote built position (.call (.mk method receiver args))

/-! ### What the statement of an author can be -/

variable {setting} {built : CompiledTest} {statement : Statement}

/-- No call of a method or constructor goes through the helpers. -/
theorem Invokes.isReflection {method : MethodReference} {receiver : Option Plan}
    {args : List Plan} {target : Option String}
    (invokes : setting.Invokes built method receiver args target statement) :
    statement.isReflection = false := by
  obtain ⟨_, _, calls⟩ := invokes
  cases calls <;> rfl

/-- No direct step goes through the helpers. -/
theorem Performs.isReflection {owner : String} {step : Action}
    (performs : setting.Performs built owner step statement) : statement.isReflection = false := by
  cases performs with
  | constructorCall invokes | externalConstructorCall invokes | externalMethodCall invokes
  | staticMethodCall invokes => exact invokes.isReflection
  | methodCall _ _ calls => cases calls <;> rfl
  | _ => rfl

/-- Every reflective step goes through the helpers. -/
theorem PerformsReflective.exists_reflection {owner : String} {position : Nat}
    {step : ReflectiveAction}
    (performs : setting.PerformsReflective built owner position step statement) :
    ∃ helper args result, statement = .reflection helper args result := by
  cases performs <;> exact ⟨_, _, _, rfl⟩

/-- An access to a static field has a null before it, which it reads first. -/
theorem PerformsReflective.reads_null {owner : String} {position : Nat} {step : ReflectiveAction}
    (performs : setting.PerformsReflective built owner (position + 1) step statement)
    (isStatic : step.isStaticAccess = true) : ∃ helper object args result,
      statement = .reflection helper (.var object :: args) result ∧
        built.At position (.null object) := by
  cases performs with
  | setStaticField after null | getStaticField after null =>
    -- The null stands right before the call, so here.
    cases after
    exact ⟨_, _, _, _, rfl, null.1⟩
  | _ => cases isStatic

/-- The statement of a literal or text puts a constant or null into the variable of its plan. -/
theorem PrescribesLeaf.makes {plan : Plan} {position : Nat}
    (prescribed : setting.PrescribesLeaf built plan position)
    (there : built.At position statement) : ∃ type var, built.Owns plan.name type var ∧
      ((∃ value, statement = .constant value var) ∨ statement = .null var) := by
  cases prescribed with
  | literal _ _ _ owns here | text _ _ owns here =>
    cases here.symm.trans there
    exact ⟨_, _, owns, .inl ⟨_, rfl⟩⟩
  | null _ _ owns here =>
    cases here.symm.trans there
    exact ⟨_, _, owns, .inr rfl⟩

/-- No literal or text goes through the helpers. -/
theorem PrescribesLeaf.isReflection {plan : Plan} {position : Nat}
    (prescribed : setting.PrescribesLeaf built plan position)
    (there : built.At position statement) : statement.isReflection = false := by
  obtain ⟨_, _, _, ⟨_, rfl⟩ | rfl⟩ := prescribed.makes there <;> rfl

/-- A call of a helper routine is for a reflective step. -/
theorem Wrote.performsReflective {position : Nat} {author : Author} {helper : HelperRoutine}
    {args : List Operand} {result : Option Var} (wrote : setting.Wrote built position author)
    (there : built.At position (.reflection helper args result)) :
    ∃ plan step, author = .reflective plan step ∧ setting.PerformsReflective built plan.name
      position step (.reflection helper args result) := by
  cases wrote with
  | @direct plan step _ _ here performs =>
    cases here.symm.trans there
    cases performs.isReflection
  | @reflective plan step _ _ here performs =>
    cases here.symm.trans there
    exact ⟨plan, step, rfl, performs⟩
  | receiver _ isStatic _ performs =>
    -- What stands here is the null, so it is no call.
    obtain ⟨_, _, _, _, _, null⟩ := performs.reads_null isStatic
    cases null.symm.trans there
  | leaf _ prescribed => cases prescribed.isReflection there
  | call invokes here =>
    cases here.symm.trans there
    cases invokes.isReflection

end Setting

end TestPlan
