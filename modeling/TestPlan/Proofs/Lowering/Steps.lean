import TestPlan.Lowering.Direct
import TestPlan.Lowering.Reflective
import TestPlan.Proofs.Lowering.Fulfil

/-! Each step appends what it prescribes, if its operands are read as they should be. -/

namespace TestPlan

variable {ρ : Type} [ClassLoading ρ] {setting : Setting ρ} {known : Fact setting} {owner : String}
  {index : Nat} {prescribes : CompiledTest → List Nat → Prop} {reads : List Plan}

namespace Lower

/-- An array type is found by loading a class. -/
theorem arrayType_reading (owner : String) (type : ValueType) :
    Reading known (arrayType owner type) fun found =>
      .always (setting.Finds (Resolve.runtimeType type) found ∧ found.isArray = true) := by
  refine .bind (.resolve (Resolve.runtimeType_plain type)) fun found => .still fun ran => ?_
  dsimp only at ran
  split at ran
  · cases ran
  · -- What is found passes only when it is an array type.
    rename_i isArray
    cases ran
    exact ⟨rfl, fun holds => ⟨holds.2, by simpa using isArray⟩⟩

/-! ### Calls -/

/-- A call whose operands have been read, so that only its statement is left. -/
structure Calling (setting : Setting ρ) (method : MethodReference) (target : Option String)
    (known : Fact setting) (post : Option Operand → Fact setting)
    (posts : List Operand → Fact setting) (facts : Fact setting) (type : RuntimeType)
    (build : Option Var → Statement) (callee : Option Operand) (args : List Operand) : Prop where
  defines : ∀ result, (build result).defines = result
  known : ∀ {built}, facts.Holds built → known.Holds built
  received : ∀ {built}, facts.Holds built → method.isConstructor = false →
    (post callee).Holds built
  supplied : ∀ {built}, facts.Holds built → (posts args).Holds built
  calls : ∀ {built}, facts.Holds built → ∀ {later result}, later.Receives type target result →
    setting.Calls later method callee args target (build result)

section Calls

variable {method : MethodReference} {target : Option String}
  {callee : Lowering ρ (Option Operand)} {args : Lowering ρ (List Operand)}
  {post : Option Operand → Fact setting} {posts : List Operand → Fact setting}
  {goal : Compilation ρ → List Origin → Compilation ρ → Prop}

/-- The result of a call has a type that is not void. -/
theorem resultType_reading (owner : String) (method : MethodReference) :
    Reading known (resultType owner method) fun found =>
      .always (setting.Finds (Resolve.runtimeType method.returns) found ∧ found ≠ .void) := by
  refine .bind (.resolve (Resolve.runtimeType_plain _)) fun found => .still fun ran => ?_
  dsimp only at ran
  split at ran
  · cases ran
  · -- Only a type that is not void passes.
    rename_i notVoid
    cases ran
    exact ⟨rfl, fun holds => ⟨holds.2, notVoid⟩⟩

/-- The result of a method goes to a plan only with the type of the method. -/
theorem resultTarget_reaches {next : Option (String × RuntimeType) → Lowering ρ Unit}
    (rest : ∀ type, Reaches
      (known.and (.always (target.isSome = true →
        setting.Finds (Resolve.runtimeType method.returns) type ∧ type ≠ .void)))
      (next (target.map (·, type))) goal) :
    Reaches known (resultTarget method target >>= next) goal := by
  cases target with
  -- Without a plan for the result any type will do, since none is asked for.
  | none => exact (rest .void).weaken fun holds => ⟨holds, nofun⟩
  | some name =>
    rw [resultTarget, bind_assoc]
    refine .read (resultType_reading name method) fun type => ?_
    rw [pure_bind]
    exact (rest type).weaken fun holds => ⟨holds.1, fun _ => holds.2⟩

/-- A call reads its operands before its statement is appended. -/
theorem invoke_reaches (received : Reading .nothing callee post)
    (supplied : Reading .nothing args posts)
    (last : ∀ {facts type build found operands},
      Calling setting method target known post posts facts type build found operands →
        Reaches facts (append (target.map (·, type)) build) goal) :
    Reaches known (invoke method callee args target) goal := by
  -- A plan that has a value is refused before anything is read.
  have unbound : Reading known (target.forM ensureUnbound) fun _ => .nothing := by
    cases target with
    | none => exact .pure fun _ _ => trivial
    | some name => exact .ensureUnbound name
  refine .read unbound fun _ => ?_
  split
  · -- A constructor is looked up, and then its arguments are read.
    rename_i isConstructor
    refine .read (.resolve (Resolve.constructor_plain method)) fun ⟨loaded, handle⟩ => ?_
    refine .read supplied.anytime fun operands => ?_
    exact @last _ loaded.type (.constructor handle operands) none _ {
      defines := fun _ => rfl
      known := fun holds => holds.1.1.1
      received := fun _ isMethod => by rw [isConstructor] at isMethod; cases isMethod
      supplied := fun holds => holds.2
      calls := fun holds => .constructor isConstructor holds.1.2 }
  · -- A method is looked up, then its result type, and then its receiver and arguments are read.
    rename_i isMethod
    refine .read (.resolve (Resolve.method_plain method)) fun handle => ?_
    refine resultTarget_reaches fun type => ?_
    refine .read received.anytime fun found => ?_
    refine .read supplied.anytime fun operands => ?_
    exact @last _ type (.method handle found operands) found _ {
      defines := fun _ => rfl
      known := fun holds => holds.1.1.1.1.1
      received := fun holds _ => holds.1.2
      supplied := fun holds => holds.2
      calls := fun holds => .method (by simpa using isMethod) holds.1.1.1.2 holds.1.1.2 }

/-- A call appends its statement. -/
theorem invoke_fulfilling (owned : ∀ name ∈ target, name = owner)
    (received : Reading .nothing callee post) (supplied : Reading .nothing args posts)
    (prescribed : ∀ {middle : Compilation ρ} {later found operands statement},
      Continues known middle later →
      (method.isConstructor = false → (post found).Holds middle.compiled) →
      (posts operands).Holds middle.compiled →
      setting.Calls later method found operands target statement →
      later.At middle.test.size statement → prescribes later [middle.test.size])
    (served : ∀ {built found operands},
      (method.isConstructor = false → (post found).Holds built) → (posts operands).Holds built →
        ∀ plan ∈ reads, built.Served plan) :
    Fulfilling owner index prescribes reads known (invoke method callee args target) := by
  -- The statement is appended right after its last operand has been read.
  refine invoke_reaches received supplied fun calling => ?_
  refine Fulfilling.append owned calling.defines (fun goesOn there receives => ?_) fun holds =>
    served (calling.received holds) (calling.supplied holds)
  exact prescribed ⟨goesOn.orderly, goesOn.kept, calling.known goesOn.holds⟩
    (calling.received goesOn.holds) (calling.supplied goesOn.holds)
    (calling.calls goesOn.holds receives) there

/-- A constructor does not read the object of its call. -/
theorem invoke_of_isConstructor (isConstructor : method.isConstructor = true)
    (callee : Lowering ρ (Option Operand)) :
    invoke method callee args target = invoke method (pure none) args target := by
  simp only [invoke, isConstructor, if_true]

end Calls

/-! ### Direct steps -/

variable {built : CompiledTest} {plan other : Plan} {plans : List Plan}
  {needed : Needed setting.roots plan} {needed' : Needed setting.roots other}
  {allNeeded : ∀ plan ∈ plans, Needed setting.roots plan}

/-- The only operand of a step has been served. -/
theorem served_one {operand : Operand} (reads : built.Reads plan operand) :
    ∀ read ∈ [plan], built.Served read := by
  intro read member
  cases List.mem_singleton.mp member
  exact reads.served

/-- A call on an object that is at hand, or on none, appends its statement. -/
theorem invokeGiven_fulfilling {method : MethodReference} {target : Option String}
    {args : Lowering ρ (List Operand)} {step : Action} (callee : Option Operand)
    (owned : ∀ name ∈ target, name = owner) (supplied : Reading .nothing args (.readAll allNeeded))
    (lowers : ∀ {middle : Compilation ρ} {later operands statement},
      Continues known middle later → later.StandForAll middle.test.size plans operands →
        setting.Calls later method callee operands target statement →
          setting.Lowers later owner middle.test.size step statement) :
    Fulfilling owner index (fun later => setting.Prescribes later owner step) plans known
      (invoke method (pure callee) args target) := by
  have given : Reading .nothing (pure callee : Lowering ρ (Option Operand)) fun found =>
      (.always (found = callee) : Fact setting) := .pure fun _ _ => rfl
  refine invoke_fulfilling owned given supplied (fun goesOn same reads calls there => ?_) fun _ =>
    CompiledTest.served_of_forall₂
  refine .one (lowers goesOn (goesOn.standForAll reads) ?_) there
  -- A method is called on the very object that has been given.
  cases calls with
  | constructor isConstructor finds receives => exact .constructor isConstructor finds receives
  | method isMethod finds typed receives =>
    cases same isMethod
    exact .method isMethod finds typed receives

/-- The constructor without parameters gives a plan its value. -/
theorem createDefault_fulfilling (className : String) :
    Fulfilling owner index
      (fun later => setting.Prescribes later owner (.defaultConstructorCall className)) [] known
      (createDefault owner className) := by
  refine .read (.resolve (Resolve.defaultConstructor_plain className)) fun ⟨loaded, handle⟩ => ?_
  refine Fulfilling.give (fun _ => rfl) (fun goesOn there owns => ?_) fun _ => nofun
  exact .one (.defaultConstructorCall goesOn.holds.2 owns) there

/-- An enum constant gives a plan its value. -/
theorem enumValue_fulfilling (className name : String) :
    Fulfilling owner index
      (fun later => setting.Prescribes later owner (.enumValueCreation className name)) [] known
      (enumValue owner className name) := by
  refine .read (.resolve (Resolve.load_plain _)) fun loaded => ?_
  refine .read (.resolve (Resolve.enumConstant_plain loaded name)) fun constant => ?_
  refine Fulfilling.define (fun _ => rfl) (fun goesOn there owns => ?_) fun _ => nofun
  exact .one (.enumValueCreation goesOn.holds.1.2 goesOn.holds.2 owns) there

/-- A field that is read gives a plan its value. -/
theorem readField_fulfilling {field : FieldReference} {receiver : Lowering ρ (Option Operand)}
    {step : Action} (allNeeded : ∀ plan ∈ plans, Needed setting.roots plan)
    (received : Reading .nothing receiver fun found => .readAll allNeeded found.toList)
    (lowers : ∀ {later position handle type object result},
      setting.Finds (Resolve.field field) handle →
      setting.Finds (Resolve.runtimeType field.type) type →
      later.StandForAll position plans object.toList → later.Owns owner type result →
        setting.Lowers later owner position step (.fieldRead handle object result)) :
    Fulfilling owner index (fun later => setting.Prescribes later owner step) plans known
      (readField owner field receiver) := by
  refine .read (.resolve (Resolve.field_plain field)) fun handle => ?_
  refine .read (.resolve (Resolve.runtimeType_plain _)) fun type => ?_
  refine .read received.anytime fun object => ?_
  refine Fulfilling.define (fun _ => rfl) (fun goesOn there owns => ?_) fun holds =>
    CompiledTest.served_of_forall₂ holds.2
  -- What is known by now, in the order in which it was learned.
  obtain ⟨⟨⟨_, finds⟩, typed⟩, reads⟩ := goesOn.holds
  exact .one (lowers finds typed (goesOn.standForAll reads) owns) there

/-- A value is stored in a field. -/
theorem writeField_fulfilling {receiver : Option Var} {field : FieldReference}
    {value : Lowering ρ Operand} {step : Action}
    (supplied : Reading .nothing value (.read needed))
    (lowers : ∀ {middle : Compilation ρ} {later handle operand}, Continues known middle later →
      setting.Finds (Resolve.field field) handle →
      later.StandsFor middle.test.size plan operand →
        setting.Lowers later owner middle.test.size step
          (.assignment (.field handle receiver) operand)) :
    Fulfilling owner index (fun later => setting.Prescribes later owner step) [plan] known
      (writeField receiver field value) := by
  refine .read (.resolve (Resolve.field_plain field)) fun handle => ?_
  refine .read supplied.anytime fun operand => ?_
  refine Fulfilling.emit rfl (fun goesOn there => ?_) fun holds => served_one holds.2
  -- The field was found before the value was read.
  obtain ⟨⟨holds, finds⟩, reads⟩ := goesOn.holds
  exact .one (lowers ⟨goesOn.orderly, goesOn.kept, holds⟩ finds (goesOn.standsFor reads)) there

/-- A new array gives a plan its value. -/
theorem newArray_fulfilling (type : ValueType) (length : Plan) :
    Fulfilling owner index
      (fun later => setting.Prescribes later owner (.newArray type length)) [] known
      (newArray owner type (literalIndex length)) := by
  refine .read (arrayType_reading owner type) fun found => ?_
  refine .read (.ofExcept _) fun size => ?_
  refine Fulfilling.define (fun _ => rfl) (fun goesOn there owns => ?_) fun _ => nofun
  obtain ⟨⟨_, finds, isArray⟩, sized⟩ := goesOn.holds
  exact .one (.newArray finds isArray sized owns) there

/-- A class object gives a plan its value. -/
theorem classConstant_fulfilling (type : ValueType) :
    Fulfilling owner index
      (fun later => setting.Prescribes later owner (.classConstantGetter type)) [] known
      (classConstant owner type) := by
  refine .read (.resolve (Resolve.typeNamed_plain _)) fun classType => ?_
  refine .read (.resolve (Resolve.runtimeType_plain type)) fun value => ?_
  refine Fulfilling.define (fun _ => rfl) (fun goesOn there owns => ?_) fun _ => nofun
  exact .one (.classConstantGetter goesOn.holds.1.2 goesOn.holds.2 owns) there

/-- The class of an array type gives a plan its value, by way of an array of that type. -/
theorem arrayClassConstant_fulfilling {element : Lowering ρ Operand}
    (supplied : Reading .nothing element (.read needed)) :
    Fulfilling owner index
      (fun later => setting.Prescribes later owner (.arrayClassConstantGetter plan)) [plan] known
      (arrayClassConstant owner element) := by
  refine .read (.ensureUnbound owner) fun _ => ?_
  -- The element type is the only plan that is read; the rest are lookups.
  refine .read supplied.anytime fun element => ?_
  refine .read (.resolve (Resolve.methodNamed_plain _ _ _)) fun allocate => ?_
  refine .read (.resolve (Resolve.typeNamed_plain _)) fun arrayType => ?_
  refine .read (.resolve (Resolve.methodNamed_plain _ _ _)) fun getClass => ?_
  refine .read (.resolve (Resolve.typeNamed_plain _)) fun classType => ?_
  -- The array is made right before the statement that asks for its class.
  refine @Fulfilling.both _ _ _ _ _ _ _ _ classType arrayType _ (some owner)
    (fun array result => .method getClass (some (.var array)) [] result)
    (by rintro _ ⟨⟩; rfl) (fun _ => rfl) (fun _ _ => rfl)
    (fun goesOn there typed there' receives => ?_) fun holds => served_one holds.1.1.1.1.2
  obtain ⟨⟨⟨⟨⟨_, reads⟩, allocates⟩, arrays⟩, gets⟩, classes⟩ := goesOn.holds
  cases receives with
  | owner owns =>
    exact .arrayClass (goesOn.standsFor reads) allocates arrays gets classes typed there owns there'

/-! ### Reflective steps -/

omit [ClassLoading ρ] in
/-- What has been read has a type, which is final. -/
theorem operandTypeName?_of_reads {session : Compilation ρ} (orderly : Orderly session)
    {operand : Operand} (reads : session.compiled.Reads plan operand) :
    ∃ type, ∀ later, session.compiled.Kept later →
      later.test.operandTypeName? operand = some type := by
  cases reads with
  | constant _ _ => exact ⟨_, fun _ _ => rfl⟩
  | var bound =>
    -- A variable of a plan is declared, and its type is not changed later.
    obtain ⟨_, defined⟩ := orderly.bound_defined _ _ (Bindings.mem_of_get? bound)
    obtain ⟨found, info, _⟩ := Option.bind_eq_some_iff.mp defined
    have typed : session.test.typeOf? _ = some found.type := congrArg (Option.map _) info
    exact ⟨found.type.typeName, fun later kept =>
      congrArg (Option.map RuntimeType.typeName) (kept.types _ _ typed)⟩

/-- A routine for the type of an operand is found by loading the helper class. -/
theorem operandRoutine_reading (purpose : HelperPurpose) {operand : Operand}
    (reads : ∀ {built}, known.Holds built → built.Reads plan operand) :
    Reading known (operandRoutine setting.config.helpers purpose operand) fun helper =>
      .lasting fun later => setting.FindsOperand later purpose operand helper where
  running ran active := by
    obtain ⟨_, _, rfl⟩ := resolve_ok ran
    exact active
  grows {session _ _ _} traced holds ran _ := by
    -- The routine is chosen by the type of the operand, which every later test agrees on.
    obtain ⟨type, typed⟩ := operandTypeName?_of_reads traced.orderly (reads holds)
    obtain ⟨grown, finds⟩ := traced.resolve (Resolve.helper_plain _ _) ran
    have found : session.test.operandTypeName? operand = some type := typed _ (.refl _)
    rw [found] at finds
    exact ⟨_, grown, fun later kept =>
      ⟨type, typed later (grown.keeps.toKept.trans kept), finds⟩⟩

/-- The operands by which a field is found. -/
theorem fieldLocator_reading (field : FieldReference) :
    Reading known (fieldLocator field) fun locator => .always (setting.Locates field locator) :=
  .bind (.resolve (Resolve.load_plain _)) fun loaded =>
    .pure fun _ holds => ⟨loaded, holds.2, rfl⟩

/-- An object without a constructor gives a plan its value. -/
theorem createUninitialized_fulfilling (type : ValueType) :
    Fulfilling owner index
      (fun later => setting.PrescribesReflective later owner (.newInstance type)) [] known
      (createUninitialized setting.config.helpers owner type) := by
  refine .read (.resolve (Resolve.runtimeType_plain type)) fun found => ?_
  refine .read (.resolve (Resolve.helper_plain _ _)) fun helper => ?_
  refine Fulfilling.give (fun _ => rfl) (fun goesOn there owns => ?_) fun _ => nofun
  exact .one (.newInstance goesOn.holds.1.2 goesOn.holds.2 owns) there

/-- A new array gives a plan its value. -/
theorem createArray_fulfilling (type : ValueType) {length : Lowering ρ Operand}
    (supplied : Reading .nothing length (.read needed)) :
    Fulfilling owner index
      (fun later => setting.PrescribesReflective later owner (.newArray type plan)) [plan] known
      (createArray setting.config.helpers owner type length) := by
  refine .read (arrayType_reading owner type) fun found => ?_
  refine .read supplied.anytime fun size => ?_
  refine .read (.resolve (Resolve.helper_plain _ _)) fun helper => ?_
  refine Fulfilling.give (fun _ => rfl) (fun goesOn there owns => ?_) fun holds =>
    served_one holds.1.2
  obtain ⟨⟨⟨_, finds, isArray⟩, reads⟩, helps⟩ := goesOn.holds
  exact .one (.newArray finds isArray (goesOn.standsFor reads) helps owns) there

/-- A value is stored in an array. -/
theorem setElement_fulfilling {array : Var} {place value : Lowering ρ Operand}
    (bound : ∀ {built}, known.Holds built →
      (Fact.bound owner array : Fact setting).Holds built)
    (placed : Reading .nothing place (.read needed))
    (supplied : Reading .nothing value (.read needed')) :
    Fulfilling owner index
      (fun later => setting.PrescribesReflective later owner (.arrayWrite plan other))
      [plan, other] known (setElement setting.config.helpers array place value) := by
  refine .read placed.anytime fun place => ?_
  refine .read supplied.anytime fun operand => ?_
  -- The routine depends on the value, so it is looked up after the value has been read.
  refine .read (operandRoutine_reading .setElement fun holds => holds.2) fun helper => ?_
  refine Fulfilling.emit rfl (fun goesOn there => ?_) fun holds =>
    CompiledTest.served_of_forall₂ (.cons holds.1.1.2 (.cons holds.1.2 .nil))
  obtain ⟨⟨⟨holds, places⟩, reads⟩, helps⟩ := goesOn.holds
  exact .one (.arrayWrite (bound holds _ goesOn.kept) (goesOn.standsFor places)
    (goesOn.standsFor reads) (helps _ goesOn.kept)) there

/-- An element that is read gives a plan its value. -/
theorem getElement_fulfilling (elementType : ValueType) {array place : Lowering ρ Operand}
    (received : Reading .nothing array (.read needed))
    (placed : Reading .nothing place (.read needed')) :
    Fulfilling owner index
      (fun later => setting.PrescribesReflective later owner (.arrayRead plan other elementType))
      [plan, other] known (getElement setting.config.helpers owner array place elementType) := by
  refine .read received.anytime fun object => ?_
  refine .read placed.anytime fun place => ?_
  refine .read (.resolve (Resolve.runtimeType_plain _)) fun type => ?_
  refine .read (.resolve (Resolve.helper_plain _ _)) fun helper => ?_
  refine Fulfilling.give (fun _ => rfl) (fun goesOn there owns => ?_) fun holds =>
    CompiledTest.served_of_forall₂ (.cons holds.1.1.1.2 (.cons holds.1.1.2 .nil))
  -- Both operands were read before the lookups, and still stand for their plans.
  obtain ⟨⟨⟨⟨_, objects⟩, places⟩, finds⟩, helps⟩ := goesOn.holds
  exact .one (.arrayRead (goesOn.standsFor objects) (goesOn.standsFor places) finds helps owns)
    there

/-- A value is stored in a field of an object. -/
theorem setField_fulfilling {receiver : Var} {field : FieldReference} {value : Lowering ρ Operand}
    (bound : ∀ {built}, known.Holds built →
      (Fact.bound owner receiver : Fact setting).Holds built)
    (supplied : Reading .nothing value (.read needed)) :
    Fulfilling owner index
      (fun later => setting.PrescribesReflective later owner (.setField field plan)) [plan] known
      (setField setting.config.helpers (some (.var receiver)) field value) := by
  refine .read supplied.anytime fun operand => ?_
  refine .read (operandRoutine_reading .setField fun holds => holds.2) fun helper => ?_
  refine .read (fieldLocator_reading field) fun locator => ?_
  -- A given object needs no null in its place.
  rw [receiverOrNull, pure_bind]
  refine Fulfilling.emit rfl (fun goesOn there => ?_) fun holds => served_one holds.1.1.2
  obtain ⟨⟨⟨holds, reads⟩, helps⟩, locates⟩ := goesOn.holds
  exact .one (.setField (bound holds _ goesOn.kept) (goesOn.standsFor reads)
    (helps _ goesOn.kept) locates) there

/-- A value is stored in a static field, with a null in place of an object. -/
theorem setStaticField_fulfilling {field : FieldReference} {value : Lowering ρ Operand}
    (supplied : Reading .nothing value (.read needed)) :
    Fulfilling owner index
      (fun later => setting.PrescribesReflective later owner (.setStaticField field plan)) [plan]
      known (setField setting.config.helpers none field value) := by
  refine .read supplied.anytime fun operand => ?_
  refine .read (operandRoutine_reading .setField fun holds => holds.2) fun helper => ?_
  refine .read (fieldLocator_reading field) fun locator => ?_
  -- Without an object the call needs a null, which takes a statement of its own.
  simp only [receiverOrNull, nullVar, bind_assoc, pure_bind]
  refine .read (.resolve (Resolve.typeNamed_plain _)) fun type => ?_
  refine @Fulfilling.both _ _ _ _ _ _ _ _ .void type _ none
    (fun object result => .reflection helper (.var object :: locator ++ [operand]) result)
    nofun (fun _ => rfl) (fun _ _ => rfl)
    (fun goesOn there typed there' receives => ?_) fun holds => served_one holds.1.1.1.2
  obtain ⟨⟨⟨⟨_, reads⟩, helps⟩, locates⟩, finds⟩ := goesOn.holds
  -- A store has no result, so nothing receives one.
  cases receives with
  | nothing =>
    exact .setStaticField (goesOn.standsFor reads) (helps _ goesOn.kept) locates
      ⟨there, type, finds, typed⟩ there'

/-- A field of an object gives a plan its value. -/
theorem getField_fulfilling {receiver : Operand} {field : FieldReference}
    (received : ∀ {built}, known.Holds built → built.Reads plan receiver) :
    Fulfilling owner index
      (fun later => setting.PrescribesReflective later owner (.getField plan field)) [plan] known
      (getField setting.config.helpers owner (some receiver) field) := by
  refine .read (.resolve (Resolve.runtimeType_plain _)) fun type => ?_
  refine .read (.resolve (Resolve.helper_plain _ _)) fun helper => ?_
  refine .read (fieldLocator_reading field) fun locator => ?_
  -- The object is known before the step begins, so only lookups and a check are left.
  refine .read (.ensureUnbound owner) fun _ => ?_
  rw [receiverOrNull, pure_bind]
  refine Fulfilling.give (fun _ => rfl) (fun goesOn there owns => ?_) fun holds =>
    served_one (received holds.1.1.1.1)
  obtain ⟨⟨⟨⟨holds, finds⟩, helps⟩, locates⟩, _⟩ := goesOn.holds
  exact .one (.getField (goesOn.standsFor (received holds)) finds helps locates owns) there

/-- A static field gives a plan its value, with a null in place of an object. -/
theorem getStaticField_fulfilling {field : FieldReference} :
    Fulfilling owner index
      (fun later => setting.PrescribesReflective later owner (.getStaticField field)) [] known
      (getField setting.config.helpers owner none field) := by
  refine .read (.resolve (Resolve.runtimeType_plain _)) fun type => ?_
  refine .read (.resolve (Resolve.helper_plain _ _)) fun helper => ?_
  refine .read (fieldLocator_reading field) fun locator => ?_
  refine .read (.ensureUnbound owner) fun _ => ?_
  simp only [receiverOrNull, nullVar, bind_assoc, pure_bind]
  refine .read (.resolve (Resolve.typeNamed_plain _)) fun null => ?_
  -- The null is the first of the two statements, and the call reads it.
  refine @Fulfilling.both _ _ _ _ _ _ _ _ type null _ (some owner)
    (fun object result => .reflection helper (.var object :: locator) result)
    (by rintro _ ⟨⟩; rfl) (fun _ => rfl) (fun _ _ => rfl)
    (fun goesOn there typed there' receives => ?_) fun _ => nofun
  obtain ⟨⟨⟨⟨⟨_, finds⟩, helps⟩, locates⟩, _⟩, nulls⟩ := goesOn.holds
  cases receives with
  | owner owns => exact .getStaticField finds helps locates ⟨there, null, nulls, typed⟩ owns there'

end Lower

end TestPlan
