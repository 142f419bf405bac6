import TestPlan.Lowering.Direct
import TestPlan.Lowering.Reflective
import TestPlan.Proofs.Lowering.Found
import TestPlan.Proofs.Lowering.Writing

/-! Each step writes its own statements, if its operands denote what it reads. -/

namespace TestPlan

variable {ρ : Type} [ClassLoading ρ] {setting : Setting ρ} {call : TestCall}
  {known : CompiledTest → Prop} {plan read other : Plan} {reads : List Plan}

namespace Setting

/-- A plan declares the type of what one of its direct steps makes. -/
theorem HasAction.declares {step : Action} (has : setting.HasAction plan step)
    {declared : ValueType} {type : RuntimeType} (makes : step.makes? = some declared)
    (finds : setting.Finds (Resolve.runtimeType declared) type) :
    setting.Declares plan.name type := by
  obtain ⟨needed, steps, kind, member⟩ := has
  refine ⟨plan, declared, needed, rfl, ?_, finds⟩
  simp only [Plan.madeTypes, kind]
  exact List.mem_filterMap.mpr ⟨step, member, makes⟩

/-- A plan declares the type of what one of its reflective steps makes. -/
theorem HasReflectiveAction.declares {step : ReflectiveAction}
    (has : setting.HasReflectiveAction plan step) {declared : ValueType} {type : RuntimeType}
    (makes : step.makes? = some declared)
    (finds : setting.Finds (Resolve.runtimeType declared) type) :
    setting.Declares plan.name type := by
  obtain ⟨needed, steps, kind, member⟩ := has
  refine ⟨plan, declared, needed, rfl, ?_, finds⟩
  simp only [Plan.madeTypes, kind]
  exact List.mem_filterMap.mpr ⟨step, member, makes⟩

end Setting

namespace Lower

open Writes

/-- An array type is found by loading a class. -/
theorem arrayType_writes {β : Type} {owner : String} {type : ValueType}
    {next : RuntimeType → Lowering ρ β} {post : β → CompiledTest → Prop}
    (rest : ∀ found, setting.Finds (Resolve.runtimeType type) found → found.isArray = true →
      Writes setting call known (next found) post) :
    Writes setting call known (arrayType owner type >>= next) post := by
  rw [arrayType, bind_assoc]
  refine .find (Resolve.runtimeType_plain type) fun found finds => ?_
  -- What is found passes only when it is an array type.
  cases isArray : found.isArray with
  | false => exact ⟨nofun⟩
  | true => exact rest found finds isArray

/-! ### Calls -/

section Calls

variable {method : MethodReference} {target : Option String} {author : Author}
  {callee : Lowering ρ (Option Operand)} {args : Lowering ρ (List Operand)}
  {received : Option Operand → CompiledTest → Prop}

/-- The result of a method goes to a plan only with the type of the method. -/
theorem resultTarget_writes {next : Option (String × RuntimeType) → Lowering ρ Unit}
    {post : Unit → CompiledTest → Prop}
    (rest : ∀ type, (target.isSome = true →
        setting.Finds (Resolve.runtimeType method.returns) type ∧ type ≠ .void) →
      Writes setting call known (next (target.map (·, type))) post) :
    Writes setting call known (resultTarget method target >>= next) post := by
  cases target with
  -- Without a plan for the result any type will do, since none is asked for.
  | none => exact rest .void nofun
  | some owner =>
    simp only [resultTarget, resultType, bind_assoc, pure_bind]
    refine .find (Resolve.runtimeType_plain _) fun type finds => ?_
    by_cases isVoid : type = .void
    · rw [if_pos isVoid]
      exact ⟨nofun⟩
    · rw [if_neg isVoid]
      exact rest type fun _ => ⟨finds, isVoid⟩

/-- A call writes its statement after its operands have been read. -/
theorem invoke_writes
    (receives : method.isConstructor = false →
      Writes setting call (fun _ => True) callee received)
    (supplies : Writes setting call (fun _ => True) args fun found built =>
      built.DenoteAll reads found)
    (declares : ∀ type, setting.Finds (Resolve.runtimeType method.valueType) type →
      ∀ name ∈ target, setting.Declares name type)
    (wrote : ∀ {built position found operands statement}, known built →
      (method.isConstructor = false → received found built) → built.DenoteAll reads operands →
      setting.Calls built method found operands target statement → built.At position statement →
        setting.WroteFor call built position author) :
    Writes setting call known (invoke method callee args target) fun _ _ => True := by
  have unbound : Writes setting call known (target.forM ensureUnbound) fun _ _ => True := by
    cases target with
    | none => exact .pure fun _ _ => trivial
    | some name => exact .ensureUnbound name
  refine .bind unbound fun _ => ?_
  cases isConstructor : method.isConstructor with
  | true =>
    refine .find (Resolve.constructor_plain method) fun ⟨loaded, handle⟩ finds => ?_
    refine .bind supplies.anytime fun operands => .append author {
      defines := fun _ => rfl
      declares := fun _ => declares _ (by
        rw [MethodReference.valueType, if_pos isConstructor]
        exact finds.constructor)
      wrote := fun holds owns there => ?_ }
    have calls : setting.Calls _ method none operands target _ :=
      .constructor isConstructor finds owns
    exact wrote holds.1.1 (by rw [isConstructor]; nofun) holds.2 calls there
  | false =>
    refine .find (Resolve.method_plain method) fun handle finds => ?_
    refine resultTarget_writes fun type typed => ?_
    refine .bind (receives isConstructor).anytime fun found => ?_
    refine .bind supplies.anytime fun operands => .append author {
      defines := fun _ => rfl
      declares := fun _ name member => declares type (by
        rw [MethodReference.valueType, isConstructor]
        exact (typed (Option.isSome_of_mem member)).1) name member
      wrote := fun holds owns there => ?_ }
    exact wrote holds.1.1.1 (fun _ => holds.1.2) holds.2
      (.method isConstructor finds typed owns) there

/-- A call on an object that a plan denotes, or on none, writes its statement. -/
theorem invokes_writes (receiver : Option Plan)
    (receives : method.isConstructor = false → Writes setting call (fun _ => True) callee
      fun found built => built.DenoteAll receiver.toList found.toList)
    (supplies : Writes setting call (fun _ => True) args fun found built =>
      built.DenoteAll reads found)
    (declares : ∀ type, setting.Finds (Resolve.runtimeType method.valueType) type →
      ∀ name ∈ target, setting.Declares name type)
    (wrote : ∀ {built position statement},
      setting.Invokes built method receiver reads target statement →
        built.At position statement → setting.WroteFor call built position author) :
    Writes setting call known (invoke method callee args target) fun _ _ => True :=
  invoke_writes receives supplies declares fun _ received supplied calls there =>
    wrote ⟨received, supplied, calls⟩ there

end Calls

/-! ### Direct steps -/

section Direct

/-- The constructor without parameters gives a plan its value. -/
theorem createDefault_writes {className : String}
    (has : setting.HasAction plan (.defaultConstructorCall className)) :
    Writes setting call known (createDefault plan.name className) fun _ _ => True := by
  refine .find (Resolve.defaultConstructor_plain className) fun ⟨loaded, handle⟩ finds => ?_
  exact .give _ (fun _ => rfl) (fun _ => has.declares rfl finds.defaultConstructor)
    fun _ owns there => .direct has there (.defaultConstructorCall finds owns)

/-- An enum constant gives a plan its value. -/
theorem enumValue_writes {className name : String}
    (has : setting.HasAction plan (.enumValueCreation className name)) :
    Writes setting call known (enumValue plan.name className name) fun _ _ => True := by
  refine .find (Resolve.load_plain _) fun loaded finds => ?_
  refine .find (Resolve.enumConstant_plain loaded name) fun constant among => ?_
  exact .give _ (fun _ => rfl) (fun _ => has.declares rfl finds.runtimeType)
    fun _ owns there => .direct has there (.enumValueCreation finds among owns)

/-- A field that is read gives a plan its value. -/
theorem readField_writes {step : Action} {field : FieldReference}
    {receiver : Lowering ρ (Option Operand)} {reads : List Plan}
    (has : setting.HasAction plan step) (makes : step.makes? = some field.type)
    (receives : Writes setting call (fun _ => True) receiver fun found built =>
      built.DenoteAll reads found.toList)
    (performs : ∀ {built handle type object result},
      setting.Finds (Resolve.field field) handle →
      setting.Finds (Resolve.runtimeType field.type) type →
      built.DenoteAll reads object.toList → built.Owns plan.name type result →
        setting.Performs built plan.name step (.fieldRead handle object result)) :
    Writes setting call known (readField plan.name field receiver) fun _ _ => True := by
  refine .find (Resolve.field_plain field) fun handle finds => ?_
  refine .find (Resolve.runtimeType_plain _) fun type typed => ?_
  refine .bind receives.anytime fun object => ?_
  exact .give _ (fun _ => rfl) (fun _ => has.declares makes typed)
    fun holds owns there => .direct has there (performs finds typed holds.2 owns)

/-- A value is stored in a field. -/
theorem writeField_writes {step : Action} {field : FieldReference} {receiver : Option Var}
    {value : Lowering ρ Operand} (has : setting.HasAction plan step)
    (supplies : Writes setting call (fun _ => True) value fun found built =>
      built.Denotes read found)
    (performs : ∀ {built handle operand}, known built →
      setting.Finds (Resolve.field field) handle → built.Denotes read operand →
        setting.Performs built plan.name step (.assignment (.field handle receiver) operand)) :
    Writes setting call known (writeField receiver field value) fun _ _ => True := by
  refine .find (Resolve.field_plain field) fun handle finds => ?_
  refine .bind supplies.anytime fun operand => ?_
  exact .emit _ rfl fun holds there => .direct has there (performs holds.1 finds holds.2)

/-- A new array gives a plan its value. -/
theorem newArray_writes {type : ValueType} {length : Plan}
    (has : setting.HasAction plan (.newArray type length)) :
    Writes setting call known (newArray plan.name type (literalIndex length)) fun _ _ => True := by
  refine arrayType_writes fun found finds isArray => ?_
  refine .take fun size sized => ?_
  exact .give _ (fun _ => rfl) (fun _ => has.declares rfl finds)
    fun _ owns there => .direct has there (.newArray finds isArray sized owns)

/-- A class object gives a plan its value. -/
theorem classConstant_writes {type : ValueType}
    (has : setting.HasAction plan (.classConstantGetter type)) :
    Writes setting call known (classConstant plan.name type) fun _ _ => True := by
  refine .find (Resolve.typeNamed_plain _) fun classType classes => ?_
  refine .find (Resolve.runtimeType_plain type) fun value finds => ?_
  exact .give _ (fun _ => rfl)
    (fun _ => has.declares rfl (Resolve.typeNamed_classClass (ρ := ρ) ▸ classes))
    fun _ owns there => .direct has there (.classConstantGetter classes finds owns)

/-- The class of an array type gives a plan its value, by way of an array of that type. -/
theorem arrayClassConstant_writes {element : Lowering ρ Operand}
    (has : setting.HasAction plan (.arrayClassConstantGetter read))
    (supplies : Writes setting call (fun _ => True) element fun found built =>
      built.Denotes read found) :
    Writes setting call known (arrayClassConstant plan.name element) fun _ _ => True := by
  refine .bind (.ensureUnbound plan.name) fun _ => ?_
  refine .bind supplies.anytime fun element => ?_
  -- All that is left before the two statements are lookups.
  refine .find (Resolve.methodNamed_plain _ _ _) fun allocate allocates => ?_
  refine .find (Resolve.typeNamed_plain _) fun arrayType arrays => ?_
  refine .find (Resolve.methodNamed_plain _ _ _) fun getClass gets => ?_
  refine .find (Resolve.typeNamed_plain _) fun classType classes => ?_
  refine .both (.direct plan (.arrayClassConstantGetter read)) (some plan.name) classType
    (fun array result => .method getClass (some (.var array)) [] result) {
      defines := fun _ => rfl
      defines' := fun _ _ => rfl
      declares := fun _ name member => ?_
      wrote := fun holds typed receives there next => ?_ }
  · cases member
    exact has.declares rfl (Resolve.typeNamed_classClass (ρ := ρ) ▸ classes)
  · cases receives with
    | owner owns =>
      exact ⟨.direct has there (.allocate holds.2 allocates arrays typed),
        .direct has next (.arrayClassConstantGetter gets classes owns)⟩

end Direct

/-! ### Reflective steps -/

section Reflective

/-- The operands by which a field is found. -/
theorem fieldLocator_writes {β : Type} {field : FieldReference}
    {next : List Operand → Lowering ρ β} {post : β → CompiledTest → Prop}
    (rest : ∀ locator, setting.Locates field locator →
      Writes setting call known (next locator) post) :
    Writes setting call known (fieldLocator field >>= next) post := by
  simp only [fieldLocator, bind_assoc, pure_bind]
  exact .find (Resolve.load_plain _) fun loaded finds => rest _ ⟨loaded, finds, rfl⟩

/-- An object without a constructor gives a plan its value. -/
theorem createUninitialized_writes {type : ValueType}
    (has : setting.HasReflectiveAction plan (.newInstance type)) :
    Writes setting call known (createUninitialized setting.config.helpers plan.name type) fun _ _ =>
      True := by
  refine .find (Resolve.runtimeType_plain type) fun found finds => ?_
  refine .find (Resolve.helper_plain _ _) fun helper helps => ?_
  exact .give _ (fun _ => rfl) (fun _ => has.declares rfl finds)
    fun _ owns there => .reflective has there (.newInstance finds helps owns)

/-- A new array gives a plan its value. -/
theorem createArray_writes {type : ValueType} {length : Lowering ρ Operand}
    (has : setting.HasReflectiveAction plan (.newArray type read))
    (supplies : Writes setting call (fun _ => True) length fun found built =>
      built.Denotes read found) :
    Writes setting call known (createArray setting.config.helpers plan.name type length) fun _ _ =>
      True := by
  refine arrayType_writes fun found finds isArray => ?_
  refine .bind supplies.anytime fun size => ?_
  refine .find (Resolve.helper_plain _ _) fun helper helps => ?_
  exact .give _ (fun _ => rfl) (fun _ => has.declares rfl finds)
    fun holds owns there => .reflective has there (.newArray finds isArray holds.2 helps owns)

/-- A value is stored in an array. -/
theorem setElement_writes {array : Var} {place value : Lowering ρ Operand}
    (has : setting.HasReflectiveAction plan (.arrayWrite read other))
    (bound : ∀ {built}, known built → built.bindings.get? plan.name = some array)
    (places : Writes setting call (fun _ => True) place fun found built => built.Denotes read found)
    (supplies : Writes setting call (fun _ => True) value fun found built =>
      built.Denotes other found) :
    Writes setting call known (setElement setting.config.helpers array place value)
      fun _ _ => True := by
  refine .bind places.anytime fun place => ?_
  refine .bind supplies.anytime fun operand => ?_
  -- The routine depends on the value, so it is looked up after the value has been read.
  refine .bind (.operandRoutine fun _ holds => holds.2) fun helper => ?_
  refine .emit _ rfl fun holds there => .reflective has there ?_
  exact .arrayWrite (bound holds.1.1.1) holds.1.1.2 holds.1.2 holds.2

/-- An element that is read gives a plan its value. -/
theorem getElement_writes {elementType : ValueType} {array place : Lowering ρ Operand}
    (has : setting.HasReflectiveAction plan (.arrayRead read other elementType))
    (receives : Writes setting call (fun _ => True) array fun found built =>
      built.Denotes read found)
    (places : Writes setting call (fun _ => True) place fun found built =>
      built.Denotes other found) :
    Writes setting call known (getElement setting.config.helpers plan.name array place elementType)
      fun _ _ => True := by
  refine .bind receives.anytime fun object => ?_
  refine .bind places.anytime fun place => ?_
  refine .find (Resolve.runtimeType_plain _) fun type finds => ?_
  refine .find (Resolve.helper_plain _ _) fun helper helps => ?_
  refine .give _ (fun _ => rfl) (fun _ => has.declares rfl finds)
    fun holds owns there => .reflective has there ?_
  exact .arrayRead holds.1.2 holds.2 finds helps owns

/-- A value is stored in a field of an object. -/
theorem setField_writes {receiver : Var} {field : FieldReference} {value : Lowering ρ Operand}
    (has : setting.HasReflectiveAction plan (.setField field read))
    (bound : ∀ {built}, known built → built.bindings.get? plan.name = some receiver)
    (supplies : Writes setting call (fun _ => True) value fun found built =>
      built.Denotes read found) :
    Writes setting call known (setField setting.config.helpers (some (.var receiver)) field value)
      fun _ _ => True := by
  refine .bind supplies.anytime fun operand => ?_
  refine .bind (.operandRoutine fun _ holds => holds.2) fun helper => ?_
  refine fieldLocator_writes fun locator locates => ?_
  -- A given object needs no null in its place.
  rw [receiverOrNull, pure_bind]
  refine .emit _ rfl fun holds there => .reflective has there ?_
  exact .setField (bound holds.1.1) holds.1.2 holds.2 locates

/-- A value is stored in a static field, with a null in place of an object. -/
theorem setStaticField_writes {field : FieldReference} {value : Lowering ρ Operand}
    (has : setting.HasReflectiveAction plan (.setStaticField field read))
    (supplies : Writes setting call (fun _ => True) value fun found built =>
      built.Denotes read found) :
    Writes setting call known (setField setting.config.helpers none field value)
      fun _ _ => True := by
  refine .bind supplies.anytime fun operand => ?_
  refine .bind (.operandRoutine fun _ holds => holds.2) fun helper => ?_
  refine fieldLocator_writes fun locator locates => ?_
  -- Without an object the call needs a null, which takes a statement of its own.
  simp only [receiverOrNull, nullVar, bind_assoc, pure_bind]
  refine .find (Resolve.typeNamed_plain _) fun type nulls => ?_
  refine .both (.reflective plan (.setStaticField field read)) none .void
    (fun object result => .reflection helper (.var object :: locator ++ [operand]) result) {
      defines := fun _ => rfl
      defines' := fun _ _ => rfl
      declares := nofun
      wrote := fun holds typed receives there next => ?_ }
  cases receives with
  | nothing =>
    have performs : setting.PerformsReflective _ plan.name _ (.setStaticField field read) _ :=
      .setStaticField rfl ⟨there, type, nulls, typed⟩ holds.1.2 holds.2 locates
    exact ⟨.receiver has rfl next performs, .reflective has next performs⟩

/-- A field of an object gives a plan its value. -/
theorem getField_writes {receiver : Operand} {field : FieldReference}
    (has : setting.HasReflectiveAction plan (.getField read field))
    (received : ∀ {built}, known built → built.Denotes read receiver) :
    Writes setting call known (getField setting.config.helpers plan.name (some receiver) field)
      fun _ _ => True := by
  refine .find (Resolve.runtimeType_plain _) fun type finds => ?_
  refine .find (Resolve.helper_plain _ _) fun helper helps => ?_
  refine fieldLocator_writes fun locator locates => ?_
  -- The object is known before the step begins, so only a check is left.
  refine .bind (.ensureUnbound plan.name) fun _ => ?_
  rw [receiverOrNull, pure_bind]
  refine .give _ (fun _ => rfl) (fun _ => has.declares rfl finds)
    fun holds owns there => .reflective has there ?_
  exact .getField (received holds.1) finds helps locates owns

/-- A static field gives a plan its value, with a null in place of an object. -/
theorem getStaticField_writes {field : FieldReference}
    (has : setting.HasReflectiveAction plan (.getStaticField field)) :
    Writes setting call known (getField setting.config.helpers plan.name none field) fun _ _ =>
      True := by
  refine .find (Resolve.runtimeType_plain _) fun type finds => ?_
  refine .find (Resolve.helper_plain _ _) fun helper helps => ?_
  refine fieldLocator_writes fun locator locates => ?_
  refine .bind (.ensureUnbound plan.name) fun _ => ?_
  simp only [receiverOrNull, nullVar, bind_assoc, pure_bind]
  refine .find (Resolve.typeNamed_plain _) fun null nulls => ?_
  -- The null is the first of the two statements, and the call reads it.
  refine .both (.reflective plan (.getStaticField field)) (some plan.name) type
    (fun object result => .reflection helper (.var object :: locator) result) {
      defines := fun _ => rfl
      defines' := fun _ _ => rfl
      declares := fun _ name member => by
        cases member
        exact has.declares rfl finds
      wrote := fun holds typed receives there next => ?_ }
  cases receives with
  | owner owns =>
    have performs : setting.PerformsReflective _ plan.name _ (.getStaticField field) _ :=
      .getStaticField rfl ⟨there, null, nulls, typed⟩ finds helps locates owns
    exact ⟨.receiver has rfl next performs, .reflective has next performs⟩

end Reflective

end Lower

end TestPlan
