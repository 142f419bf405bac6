import TestPlan.Lowering.Compile
import TestPlan.Proofs.Lowering.Refusals
import TestPlan.Proofs.Plan.Roles

/-! Which primitive steps the lowering of a step is composed of, under one configuration or two. -/

namespace TestPlan

variable {ρ α β : Type} [ClassLoading ρ]

/--
Two lowerings that are composed of the same primitive steps, except that plans are read under a
configuration each. Both read some plans only, and do one thing with the value of their owner.
-/
inductive Composed (config config' : CompilerConfig) (owner : String) (reads : List Plan) :
    Role → {α : Type} → Lowering ρ α → Lowering ρ α → Prop
  | pure {α : Type} (result : α) :
      Composed config config' owner reads .neither (pure result) (pure result)
  | throw {α : Type} {role : Role} {error : CompileError} : ¬ error.OfName →
      Composed config config' owner reads role (throw error : Lowering ρ α) (throw error)
  | resolve {α : Type} {lookup : Lookup ρ α} : Plain lookup →
      Composed config config' owner reads .neither (Lower.resolve lookup) (Lower.resolve lookup)
  | inspect {α : Type} {role : Role} (next next' : TestCase → Lowering ρ α) :
      (∀ test, Composed config config' owner reads role (next test) (next' test)) →
      Composed config config' owner reads role (get >>= fun session => next session.test)
        (get >>= fun session => next' session.test)
  | operand {plan : Plan} : plan ∈ reads →
      Composed config config' owner reads .neither (Lower.operand config plan)
        (Lower.operand config' plan)
  | emit (statement : Statement) : statement.defines = none →
      Composed config config' owner reads .neither (Lower.emit statement) (Lower.emit statement)
  | temporary (type : RuntimeType) (build : Var → Statement) :
      (∀ var, (build var).defines = some var) →
      Composed config config' owner reads .neither (Lower.temporary type build)
        (Lower.temporary type build)
  | ownerVar :
      Composed config config' owner reads .uses (Lower.ownerVar owner) (Lower.ownerVar owner)
  | define {type : RuntimeType} {build : Var → Statement} :
      (∀ var, (build var).defines = some var) →
      Composed config config' owner reads .produces (Lower.define owner type build)
        (Lower.define owner type build)
  /-- Only what makes the value of the owner requires that there is none. -/
  | ensureUnbound {α : Type} {next next' : Unit → Lowering ρ α} :
      (∀ result, Composed config config' owner reads .produces (next result) (next' result)) →
      Composed config config' owner reads .produces (Lower.ensureUnbound owner >>= next)
        (Lower.ensureUnbound owner >>= next')
  | before {α β : Type} {role : Role} {first first' : Lowering ρ α}
      {next next' : α → Lowering ρ β} :
      Composed config config' owner reads .neither first first' →
      (∀ result, Composed config config' owner reads role (next result) (next' result)) →
      Composed config config' owner reads role (first >>= next) (first' >>= next')
  | after {α β : Type} {role : Role} {first first' : Lowering ρ α}
      {next next' : α → Lowering ρ β} :
      Composed config config' owner reads role first first' →
      (∀ result, Composed config config' owner reads .neither (next result) (next' result)) →
      Composed config config' owner reads role (first >>= next) (first' >>= next')

namespace Composed

variable {config config' : CompilerConfig} {owner : String} {reads : List Plan} {role : Role}

/-- A lowering whose result is wrapped is composed of the same steps. -/
theorem map {first first' : Lowering ρ α}
    (composed : Composed config config' owner reads role first first') (wrap : α → β) :
    Composed config config' owner reads role (wrap <$> first) (wrap <$> first') := by
  rw [← bind_pure_comp, ← bind_pure_comp]
  exact .after composed fun _ => .pure _

/-- A lowering that reads some plans reads some of more plans. -/
theorem mono {first first' : Lowering ρ α} {more : List Plan} (inside : reads ⊆ more)
    (composed : Composed config config' owner reads role first first') :
    Composed config config' owner more role first first' := by
  induction composed with
  | pure result => exact .pure result
  | throw other => exact .throw other
  | resolve plain => exact .resolve plain
  | inspect _ _ _ ih => exact .inspect _ _ ih
  | operand member => exact .operand (inside member)
  | emit statement defines => exact .emit statement defines
  | temporary type build defines => exact .temporary type build defines
  | ownerVar => exact .ownerVar
  | define defines => exact .define defines
  | ensureUnbound _ ih => exact .ensureUnbound ih
  | before _ _ ih ih' => exact .before ih ih'
  | after _ _ ih ih' => exact .after ih ih'

/-- What a lowering does with a result that is at hand, or with its error. -/
theorem ofExcept {result : Except CompileError α}
    (other : ∀ error, result = .error error → ¬ error.OfName) :
    Composed (ρ := ρ) config config' owner reads .neither (Lower.ofExcept result)
      (Lower.ofExcept result) := by
  cases result with
  | ok result => exact .pure result
  | error error => exact .throw (other error rfl)

end Composed

namespace Lower

variable {config config' : CompilerConfig} {owner : String} {reads : List Plan}

/-! ### Direct steps -/

/-- An array type is looked up. -/
theorem arrayType_composed (type : ValueType) :
    Composed (ρ := ρ) config config' owner reads .neither (arrayType owner type)
      (arrayType owner type) := by
  refine .before (.resolve (Resolve.runtimeType_plain type)) fun found => ?_
  dsimp only
  split
  · exact .throw id
  · exact .pure found

/-- What a step does with the value of the plan that takes its result, if there is one. -/
def targetRole : Option α → Role
  | none => .neither
  | some _ => .produces

/-- A statement is appended, and makes the value of the owner when it has a result. -/
theorem append_composed (target : Option (String × RuntimeType)) {build : Option Var → Statement}
    (own : ∀ name type, target = some (name, type) → name = owner)
    (defines : ∀ result, (build result).defines = result) :
    Composed (ρ := ρ) config config' owner reads (targetRole target) (append target build)
      (append target build) := by
  match target with
  | none => exact .emit (build none) (defines none)
  | some (name, type) =>
    -- The only plan that a step gives a value is its owner.
    obtain rfl := own name type rfl
    exact .after (.define fun var => defines (some var)) fun _ => .pure ()

/-- The type of a result is looked up when a plan takes it. -/
theorem resultType_composed (plan : String) (method : MethodReference) :
    Composed (ρ := ρ) config config' owner reads .neither (resultType plan method)
      (resultType plan method) := by
  refine .before (.resolve (Resolve.runtimeType_plain _)) fun type => ?_
  split
  · exact .throw id
  · exact .pure type

section Calls

variable {args args' : Lowering ρ (List Operand)} {callee callee' : Lowering ρ (Option Operand)}
  (target : Option String)

/-- A constructor is looked up, its arguments are read, and it is called. -/
theorem invokeConstructor_composed (constructor : MethodReference)
    (own : ∀ name, target = some name → name = owner)
    (supplied : Composed config config' owner reads .neither args args') :
    Composed config config' owner reads (targetRole target)
      (invokeConstructor constructor args target) (invokeConstructor constructor args' target) := by
  refine .before (.resolve (Resolve.constructor_plain constructor)) ?_
  rintro ⟨loaded, handle⟩
  refine .before supplied fun args => ?_
  cases target with
  | none => exact append_composed none nofun fun _ => rfl
  | some name =>
    exact append_composed (some (name, loaded.type)) (by rintro _ _ ⟨⟩; exact own name rfl)
      fun _ => rfl

/-- A method is looked up, its receiver and arguments are read, and it is called. -/
theorem invokeMethod_composed (method : MethodReference)
    (own : ∀ name, target = some name → name = owner)
    (received : Composed config config' owner reads .neither callee callee')
    (supplied : Composed config config' owner reads .neither args args') :
    Composed config config' owner reads (targetRole target)
      (invokeMethod method callee args target) (invokeMethod method callee' args' target) := by
  refine .before (.resolve (Resolve.method_plain method)) fun handle => ?_
  -- The operands are read after the type of the result, if there is one, is known.
  have call : ∀ result : Option (String × RuntimeType),
      (∀ name type, result = some (name, type) → name = owner) →
      Composed config config' owner reads (targetRole result)
        (do let callee ← callee
            let args ← args
            append result (.method handle callee args))
        (do let callee ← callee'
            let args ← args'
            append result (.method handle callee args)) :=
    fun result own => .before received fun callee => .before supplied fun args =>
      append_composed result own fun _ => rfl
  cases target with
  | none => exact call none nofun
  | some name =>
    simp only [resultTarget, bind_assoc, pure_bind]
    refine .before (resultType_composed name method) fun type => ?_
    exact call (some (name, type)) (by rintro _ _ ⟨⟩; exact own name rfl)

/-- A method or constructor is called, for an owner without a value if for any. -/
theorem invoke_composed (method : MethodReference)
    (own : ∀ name, target = some name → name = owner)
    (received : method.isConstructor = false →
      Composed config config' owner reads .neither callee callee')
    (supplied : Composed config config' owner reads .neither args args') :
    Composed config config' owner reads (targetRole target)
      (invoke method callee args target) (invoke method callee' args' target) := by
  have called : Composed config config' owner reads (targetRole target)
      (if method.isConstructor then invokeConstructor method args target
        else invokeMethod method callee args target)
      (if method.isConstructor then invokeConstructor method args' target
        else invokeMethod method callee' args' target) := by
    -- A constructor never reads the receiver.
    split
    · exact invokeConstructor_composed target method own supplied
    · rename_i isMethod
      exact invokeMethod_composed target method own (received (by simpa using isMethod)) supplied
  cases target with
  | none => exact called
  | some name =>
    -- A plan that takes the result must have no value before anything is read.
    obtain rfl := own name rfl
    exact .ensureUnbound fun _ => called

end Calls

/-- An object is created by the constructor without parameters. -/
theorem createDefault_composed (className : String) :
    Composed (ρ := ρ) config config' owner reads .produces (createDefault owner className)
      (createDefault owner className) := by
  refine .before (.resolve (Resolve.defaultConstructor_plain className)) ?_
  rintro ⟨loaded, handle⟩
  exact append_composed (some (owner, loaded.type)) (by rintro _ _ ⟨⟩; rfl) fun _ => rfl

/-- An enum constant is looked up and taken. -/
theorem enumValue_composed (className name : String) :
    Composed (ρ := ρ) config config' owner reads .produces (enumValue owner className name)
      (enumValue owner className name) := by
  refine .before (.resolve (Resolve.load_plain _)) fun loaded => ?_
  refine .before (.resolve (Resolve.enumConstant_plain loaded name)) fun constant => ?_
  exact .after (.define fun _ => rfl) fun _ => .pure ()

/-- A field is looked up, the object is read, and its field is taken. -/
theorem readField_composed (field : FieldReference)
    {receiver receiver' : Lowering ρ (Option Operand)}
    (received : Composed config config' owner reads .neither receiver receiver') :
    Composed config config' owner reads .produces (readField owner field receiver)
      (readField owner field receiver') := by
  refine .before (.resolve (Resolve.field_plain field)) fun handle => ?_
  refine .before (.resolve (Resolve.runtimeType_plain _)) fun type => ?_
  refine .before received fun receiver => ?_
  exact .after (.define fun _ => rfl) fun _ => .pure ()

/-- A field is looked up, a value is read, and it is stored in the field. -/
theorem writeField_composed (receiver : Option Var) (field : FieldReference)
    {value value' : Lowering ρ Operand}
    (supplied : Composed config config' owner reads .neither value value') :
    Composed config config' owner reads .neither (writeField receiver field value)
      (writeField receiver field value') :=
  .before (.resolve (Resolve.field_plain field)) fun _ => .before supplied fun _ => .emit _ rfl

/-- An array of a literal length is created. -/
theorem newArray_composed (type : ValueType) {length : Except CompileError Nat}
    (other : ∀ error, length = .error error → ¬ error.OfName) :
    Composed (ρ := ρ) config config' owner reads .produces (newArray owner type length)
      (newArray owner type length) := by
  refine .before (arrayType_composed type) fun type => .before (.ofExcept other) fun length => ?_
  exact .after (.define fun _ => rfl) fun _ => .pure ()

/-- A type is looked up and its class object is taken. -/
theorem classConstant_composed (type : ValueType) :
    Composed (ρ := ρ) config config' owner reads .produces (classConstant owner type)
      (classConstant owner type) := by
  refine .before (.resolve (Resolve.typeNamed_plain _)) fun classType => ?_
  refine .before (.resolve (Resolve.runtimeType_plain type)) fun value => ?_
  exact .after (.define fun _ => rfl) fun _ => .pure ()

/-- An array is created for an owner without a value, and its class object is taken. -/
theorem arrayClassConstant_composed {element element' : Lowering ρ Operand}
    (supplied : Composed config config' owner reads .neither element element') :
    Composed config config' owner reads .produces (arrayClassConstant owner element)
      (arrayClassConstant owner element') := by
  refine .ensureUnbound fun _ => .before supplied fun element => ?_
  refine .before (.resolve (Resolve.methodNamed_plain _ _ _)) fun newInstance => ?_
  refine .before (.resolve (Resolve.typeNamed_plain _)) fun arrayType => ?_
  refine .before (.resolve (Resolve.methodNamed_plain _ _ _)) fun getClass => ?_
  refine .before (.resolve (Resolve.typeNamed_plain _)) fun classType => ?_
  refine .before (.temporary _ _ fun _ => rfl) fun array => ?_
  exact .after (.define fun _ => rfl) fun _ => .pure ()

/-! ### Reflective steps -/

/-- A routine of the helper class is looked up. -/
theorem helperRoutine_composed (helpers : HelperLibrary) (name : String) :
    Composed (ρ := ρ) config config' owner reads .neither (helperRoutine helpers name)
      (helperRoutine helpers name) :=
  .resolve (Resolve.helper_plain _ name)

/-- The routine for an operand is found by looking at the test for its type. -/
theorem operandRoutine_composed (helpers : HelperLibrary) (purpose : HelperPurpose)
    (operand : Operand) :
    Composed (ρ := ρ) config config' owner reads .neither (operandRoutine helpers purpose operand)
      (operandRoutine helpers purpose operand) :=
  .inspect (fun test => familyRoutine helpers purpose ((test.operandTypeName? operand).getD "")) _
    fun _ => helperRoutine_composed helpers _

/-- The class of a field is looked up. -/
theorem fieldLocator_composed (field : FieldReference) :
    Composed (ρ := ρ) config config' owner reads .neither (fieldLocator field)
      (fieldLocator field) :=
  .before (.resolve (Resolve.load_plain _)) fun _ => .pure _

/-- A null is made in place of a missing receiver. -/
theorem receiverOrNull_composed (receiver : Option Operand) :
    Composed (ρ := ρ) config config' owner reads .neither (receiverOrNull receiver)
      (receiverOrNull receiver) := by
  cases receiver with
  | some receiver => exact .pure receiver
  | none =>
    -- The null belongs to no plan, so it is no value of the owner.
    refine .before ?_ fun var => .pure (Operand.var var)
    exact .before (.resolve (Resolve.typeNamed_plain _)) fun _ => .temporary _ _ fun _ => rfl

/-- An object is created without a constructor. -/
theorem createUninitialized_composed (helpers : HelperLibrary) (type : ValueType) :
    Composed (ρ := ρ) config config' owner reads .produces (createUninitialized helpers owner type)
      (createUninitialized helpers owner type) := by
  refine .before (.resolve (Resolve.runtimeType_plain type)) fun type => ?_
  refine .before (helperRoutine_composed helpers _) fun helper => ?_
  exact append_composed (some (owner, type)) (by rintro _ _ ⟨⟩; rfl) fun _ => rfl

/-- An array type is looked up, the length is read, and an array is created. -/
theorem createArray_composed (helpers : HelperLibrary) (type : ValueType)
    {length length' : Lowering ρ Operand}
    (supplied : Composed config config' owner reads .neither length length') :
    Composed config config' owner reads .produces (createArray helpers owner type length)
      (createArray helpers owner type length') := by
  refine .before (arrayType_composed type) fun type => .before supplied fun length => ?_
  refine .before (helperRoutine_composed helpers _) fun helper => ?_
  exact append_composed (some (owner, type)) (by rintro _ _ ⟨⟩; rfl) fun _ => rfl

/-- An index and a value are read, and the value is stored in an array. -/
theorem setElement_composed (helpers : HelperLibrary) (array : Var)
    {index index' value value' : Lowering ρ Operand}
    (indexed : Composed config config' owner reads .neither index index')
    (supplied : Composed config config' owner reads .neither value value') :
    Composed config config' owner reads .neither (setElement helpers array index value)
      (setElement helpers array index' value') :=
  .before indexed fun _ => .before supplied fun _ =>
    .before (operandRoutine_composed helpers _ _) fun _ => .emit _ rfl

/-- An array and an index are read, and the element is taken. -/
theorem getElement_composed (helpers : HelperLibrary) (elementType : ValueType)
    {array array' index index' : Lowering ρ Operand}
    (received : Composed config config' owner reads .neither array array')
    (indexed : Composed config config' owner reads .neither index index') :
    Composed config config' owner reads .produces
      (getElement helpers owner array index elementType)
      (getElement helpers owner array' index' elementType) := by
  refine .before received fun array => .before indexed fun index => ?_
  refine .before (.resolve (Resolve.runtimeType_plain _)) fun type => ?_
  refine .before (helperRoutine_composed helpers _) fun helper => ?_
  exact append_composed (some (owner, type)) (by rintro _ _ ⟨⟩; rfl) fun _ => rfl

/-- A value is read and stored in a field. -/
theorem setField_composed (helpers : HelperLibrary) (receiver : Option Operand)
    (field : FieldReference) {value value' : Lowering ρ Operand}
    (supplied : Composed config config' owner reads .neither value value') :
    Composed config config' owner reads .neither (setField helpers receiver field value)
      (setField helpers receiver field value') :=
  .before supplied fun _ => .before (operandRoutine_composed helpers _ _) fun _ =>
    .before (fieldLocator_composed field) fun _ =>
      .before (receiverOrNull_composed receiver) fun _ => .emit _ rfl

/-- A field is taken for an owner without a value. -/
theorem getField_composed (helpers : HelperLibrary) (receiver : Option Operand)
    (field : FieldReference) :
    Composed (ρ := ρ) config config' owner reads .produces (getField helpers owner receiver field)
      (getField helpers owner receiver field) := by
  refine .before (.resolve (Resolve.runtimeType_plain _)) fun type => ?_
  refine .before (helperRoutine_composed helpers _) fun helper => ?_
  -- The owner is looked at before a null is made for a static field.
  refine .before (fieldLocator_composed field) fun locator => .ensureUnbound fun _ => ?_
  refine .before (receiverOrNull_composed receiver) fun receiver => ?_
  exact append_composed (some (owner, type)) (by rintro _ _ ⟨⟩; rfl) fun _ => rfl

/-! ### Literals and texts -/

/-- A literal that is compiled makes the value of its plan. -/
theorem literalLeaf_composed (value : Literal) :
    Composed (ρ := ρ) config config' owner reads .produces (literalLeaf owner value)
      (literalLeaf owner value) := by
  unfold literalLeaf
  -- Only null needs the type that every object has.
  split
  · exact .define fun _ => rfl
  · exact .before (.resolve (Resolve.typeNamed_plain _)) fun _ => .define fun _ => rfl

/-- A text that is compiled makes the value of its plan. -/
theorem textLeaf_composed (text : String) :
    Composed (ρ := ρ) config config' owner reads .produces (textLeaf owner text)
      (textLeaf owner text) :=
  .before (.resolve (Resolve.typeNamed_plain _)) fun _ => .define fun _ => rfl

/-! ### Operands -/

/-- Plans are read one after the other. -/
theorem operands_composed {plans : List Plan} (inside : plans ⊆ reads) :
    Composed (ρ := ρ) config config' owner reads .neither (operands config plans)
      (operands config' plans) := by
  induction plans with
  | nil => exact .pure []
  | cons plan rest ih =>
    refine .before (.operand (inside List.mem_cons_self)) fun first => ?_
    exact .before (ih (List.subset_of_cons_subset inside)) fun others => .pure (first :: others)

/-- The plan of a receiver is read, if there is one. -/
theorem receiverOperand_composed {receiver : Option Plan} (inside : receiver.toList ⊆ reads) :
    Composed (ρ := ρ) config config' owner reads .neither (receiverOperand config receiver)
      (receiverOperand config' receiver) := by
  cases receiver with
  | none => exact .pure none
  | some plan => exact (Composed.operand (inside List.mem_cons_self)).map some

/-- Plans are read and their values stored one after the other. -/
theorem storeElements_composed (array : Var) (position : Nat) {plans : List Plan}
    (inside : plans ⊆ reads) :
    Composed (ρ := ρ) config config' owner reads .neither
      (storeElements config array position plans) (storeElements config' array position plans) := by
  -- Each value is stored before the next one is read.
  induction plans generalizing position with
  | nil => exact .pure ()
  | cons plan rest ih =>
    refine .before (.operand (inside List.mem_cons_self)) fun value => ?_
    exact .before (.emit _ rfl) fun _ => ih (position + 1) (List.subset_of_cons_subset inside)

/-! ### All steps -/

/-- A length or index that is no literal is not refused for a name. -/
theorem literalIndex_not_ofName {plan : Plan} {error : CompileError}
    (failed : literalIndex plan = .error error) : ¬ error.OfName := by
  unfold literalIndex at failed
  split at failed
  · split at failed <;> cases failed
    exact id
  · cases failed
    exact id

/-- A direct step reads its operands and does with the value of its owner what its role says. -/
theorem lowerAction_composed (step : Action) :
    Composed (ρ := ρ) config config' owner step.reads step.role (lowerAction config owner step)
      (lowerAction config' owner step) := by
  have own : ∀ name, some owner = some name → name = owner := by rintro _ ⟨⟩; rfl
  cases step with
  | arrayWrite index value =>
    -- The index must be a literal, and is not read.
    refine .after .ownerVar fun array => ?_
    refine .before (.ofExcept fun _ => literalIndex_not_ofName) fun index => ?_
    exact .before (.operand List.mem_cons_self) fun _ => .emit _ rfl
  | constructorCall constructor args | externalConstructorCall constructor args =>
    exact invoke_composed (some owner) constructor own (fun _ => .pure none)
      (operands_composed fun _ => id)
  | innerClassConstructorCall _ _ _ => exact .throw id
  | defaultConstructorCall className => exact createDefault_composed className
  | enumValueCreation className name => exact enumValue_composed className name
  | methodCall method args =>
    refine .after .ownerVar fun receiver => ?_
    exact invoke_composed none method nofun (fun _ => .pure _) (operands_composed fun _ => id)
  | externalMethodCall method receiver args =>
    refine invoke_composed (some owner) method own (fun isMethod => receiverOperand_composed ?_)
      (operands_composed ?_)
    · simp only [Action.reads, isMethod]
      exact List.subset_append_left _ _
    · -- The arguments are read in any case.
      simp only [Action.reads]
      split
      · exact fun _ => id
      · exact List.subset_append_right _ _
  | staticMethodCall method args =>
    exact invoke_composed none method nofun (fun _ => .pure none) (operands_composed fun _ => id)
  | fieldGetter receiver field =>
    exact readField_composed field ((Composed.operand List.mem_cons_self).map some)
  | staticFieldGetter field => exact readField_composed field (.pure none)
  | fieldSetter field value =>
    refine .after .ownerVar fun receiver => ?_
    exact writeField_composed (some receiver) field (.operand List.mem_cons_self)
  | staticFieldSetter field value =>
    exact writeField_composed none field (.operand List.mem_cons_self)
  | newArray type length => exact newArray_composed type fun _ => literalIndex_not_ofName
  | newArrayWithInitializer type elements =>
    -- The array is the value of the plan before its elements are read.
    refine .before (arrayType_composed type) fun type => ?_
    exact .after (.define fun _ => rfl) fun array => storeElements_composed array 0 fun _ => id
  | classConstantGetter type => exact classConstant_composed type
  | arrayClassConstantGetter elementType =>
    exact arrayClassConstant_composed (.operand List.mem_cons_self)

/-- A reflective step reads its operands and does with the value of its owner what its role says. -/
theorem lowerReflectiveAction_composed (same : config.helpers = config'.helpers)
    (step : ReflectiveAction) :
    Composed (ρ := ρ) config config' owner step.operands step.role
      (lowerReflectiveAction config owner step) (lowerReflectiveAction config' owner step) := by
  -- Only the helpers of a configuration are looked at, and those are the same.
  cases step <;> simp only [lowerReflectiveAction, same]
  case newInstance type => exact createUninitialized_composed _ type
  case newArray type length => exact createArray_composed _ type (.operand List.mem_cons_self)
  case arrayWrite index value =>
    refine .after .ownerVar fun array => ?_
    exact setElement_composed _ array (.operand List.mem_cons_self)
      (.operand (List.mem_cons_of_mem _ List.mem_cons_self))
  case arrayRead array index elementType =>
    exact getElement_composed _ elementType (.operand List.mem_cons_self)
      (.operand (List.mem_cons_of_mem _ List.mem_cons_self))
  case setField field value =>
    refine .after .ownerVar fun receiver => ?_
    exact setField_composed _ _ field (.operand List.mem_cons_self)
  case setStaticField field value =>
    exact setField_composed _ none field (.operand List.mem_cons_self)
  case getField receiver field =>
    refine .before (.operand List.mem_cons_self) fun receiver => ?_
    exact getField_composed _ (some receiver) field
  case getStaticField field => exact getField_composed _ none field

end Lower

end TestPlan
