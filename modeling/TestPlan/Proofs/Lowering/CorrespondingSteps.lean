import TestPlan.Proofs.Lowering.Correspondence

/-! Corresponding compilations carry out each step alike, whatever it reads. -/

namespace TestPlan.Lower

variable {ρ : Type} [ClassLoading ρ] {c : Correspondence ρ} (lawful : c.Lawful)

include lawful

/-- An operand that stands for no plan is the same, but for its variable. -/
theorem stands_none (operand : Operand) : c.stands none operand (operand.map c.vars) :=
  lawful.stands none operand nofun

/-! ### Calls -/

/-- Both compilations find the type of a result, which must not be void. -/
theorem resultType_corresponds (owner : String) (method : MethodReference) :
    c.Steps Eq (resultType owner method) (resultType (c.names owner) method) := by
  refine find_corresponds lawful (Resolve.runtimeType_uniform lawful.same _) fun type => ?_
  split
  · exact .throw rfl
  · exact .pure rfl

/-- Both compilations find the type of a result when a plan takes it. -/
theorem resultTarget_corresponds (method : MethodReference) (target : Option String) :
    c.Steps (fun found found' => found' = found.map (Prod.map c.names id) ∧
        found.map Prod.fst = target)
      (resultTarget method target) (resultTarget method (target.map c.names)) := by
  cases target with
  | none => exact .pure ⟨rfl, rfl⟩
  | some name =>
    refine Parallel.bind_eq (resultType_corresponds lawful name method) fun type => ?_
    exact .pure ⟨rfl, rfl⟩

section Calls

variable {slots slots' : List (Option Plan)} {args args' : Lowering ρ (List Operand)}
  {callee callee' : Lowering ρ (Option Operand)} {target : Option String}

/-- Both compilations call a constructor. -/
theorem invokeConstructor_corresponds (constructor : MethodReference)
    (own : ∀ name ∈ target, c.common name)
    (supplied : c.Steps (StandAll c.stands slots) args args') :
    c.Acts (invokeConstructor constructor args target)
      (invokeConstructor constructor args' (target.map c.names)) := by
  refine find_corresponds lawful (Resolve.constructor_uniform lawful.same _) fun found => ?_
  obtain ⟨loaded, handle⟩ := found
  refine Parallel.bind supplied fun args args' given => ?_
  have same : (target.map c.names).map (·, loaded.type)
      = (target.map (·, loaded.type)).map (Prod.map c.names id) := by
    cases target <;> rfl
  rw [same]
  refine append_corresponds lawful _ ?_ fun result => .constructor handle result given
  rintro name type found
  obtain ⟨name, member, ⟨⟩⟩ := Option.map_eq_some_iff.mp found
  exact own name member

/-- Both compilations call a method. -/
theorem invokeMethod_corresponds (method : MethodReference)
    (own : ∀ name ∈ target, c.common name)
    (received : c.Steps (fun callee callee' => StandAll c.stands slots callee.toList callee'.toList)
      callee callee')
    (supplied : c.Steps (StandAll c.stands slots') args args') :
    c.Acts (invokeMethod method callee args target)
      (invokeMethod method callee' args' (target.map c.names)) := by
  refine find_corresponds lawful (Resolve.method_uniform lawful.same method) fun handle => ?_
  refine Parallel.bind (resultTarget_corresponds lawful method target) ?_
  rintro found _ ⟨rfl, taken⟩
  refine Parallel.bind received fun callee callee' object => ?_
  refine Parallel.bind supplied fun args args' given => ?_
  refine append_corresponds lawful _ ?_ fun result => .method handle result object given
  rintro name type rfl
  -- The result is taken by the plan that is given, if by any.
  exact own name taken.symm

/-- Both compilations call a method or constructor, for a plan without a value if for any. -/
theorem invoke_corresponds (method : MethodReference)
    (own : ∀ name ∈ target, c.common name)
    (received : method.isConstructor = false →
      c.Steps (fun callee callee' => StandAll c.stands slots callee.toList callee'.toList)
        callee callee')
    (supplied : c.Steps (StandAll c.stands slots') args args') :
    c.Acts (invoke method callee args target)
      (invoke method callee' args' (target.map c.names)) := by
  have unbound : c.Acts (target.forM ensureUnbound) ((target.map c.names).forM ensureUnbound) := by
    cases target with
    | none => exact .pure trivial
    | some name => exact ensureUnbound_corresponds lawful (own name rfl)
  refine Parallel.bind unbound fun _ _ _ => ?_
  -- A constructor is not called on an object.
  cases isConstructor : method.isConstructor with
  | true =>
    exact invokeConstructor_corresponds lawful method own supplied
  | false =>
    exact invokeMethod_corresponds lawful method own (received isConstructor) supplied

end Calls

/-! ### Direct steps -/

section Direct

variable {owner : String} (own : c.common owner)

include own

/-- Both compilations create an object by the constructor without parameters. -/
theorem createDefault_corresponds (className : String) :
    c.Acts (createDefault owner className) (createDefault (c.names owner) className) := by
  refine find_corresponds lawful (Resolve.defaultConstructor_uniform lawful.same _) fun found => ?_
  obtain ⟨loaded, handle⟩ := found
  exact give_corresponds lawful own loaded.type fun var =>
    .constructor handle (some var) .nil

/-- Both compilations take an enum constant. -/
theorem enumValue_corresponds (className name : String) :
    c.Acts (enumValue owner className name) (enumValue (c.names owner) className name) := by
  refine find_corresponds lawful (Resolve.load_uniform lawful.same _) fun loaded => ?_
  refine find_corresponds lawful (Resolve.enumConstant_uniform loaded name) fun constant => ?_
  exact Parallel.discard (define_corresponds lawful own _
    fun var => .twins (.constant constant var))

/-- Both compilations take the value of a field. -/
theorem readField_corresponds {slots : List (Option Plan)}
    (field : FieldReference) {receiver receiver' : Lowering ρ (Option Operand)}
    (received : c.Steps (fun object object' => StandAll c.stands slots object.toList object'.toList)
      receiver receiver') :
    c.Acts (readField owner field receiver) (readField (c.names owner) field receiver') := by
  refine find_corresponds lawful (Resolve.field_uniform lawful.same field) fun handle => ?_
  refine find_corresponds lawful (Resolve.runtimeType_uniform lawful.same _) fun type => ?_
  refine Parallel.bind received fun object object' given => ?_
  exact Parallel.discard (define_corresponds lawful own _
    fun var => .twins (.fieldRead handle var given))

/-- Both compilations create an array of a literal length. -/
theorem newArray_corresponds (type : ValueType)
    {length length' : Except CompileError Nat}
    (same : length' = length.mapError (CompileError.map c.names c.vars c.positions)) :
    c.Acts (newArray owner type length) (newArray (c.names owner) type length') := by
  refine Parallel.bind_eq (arrayType_corresponds lawful owner type) fun type => ?_
  refine Parallel.bind_eq (ofExcept_corresponds same) fun length => ?_
  exact Parallel.discard (define_corresponds lawful own _
    fun var => .twins (.newArray length var))

/-- Both compilations take the class object of a type. -/
theorem classConstant_corresponds (type : ValueType) :
    c.Acts (classConstant owner type) (classConstant (c.names owner) type) := by
  refine find_corresponds lawful (Resolve.typeNamed_uniform lawful.same _) fun classType => ?_
  refine find_corresponds lawful (Resolve.runtimeType_uniform lawful.same type) fun value => ?_
  exact Parallel.discard (define_corresponds lawful own _ fun var => .twins (.constant _ var))

/-- Both compilations take the class object of an array type. -/
theorem arrayClassConstant_corresponds {slot : Option Plan}  {element element' : Lowering ρ Operand}
    (supplied : c.Steps (c.stands slot) element element') :
    c.Acts (arrayClassConstant owner element) (arrayClassConstant (c.names owner) element') := by
  refine Parallel.bind (ensureUnbound_corresponds lawful own) fun _ _ _ => ?_
  refine Parallel.bind supplied fun element element' given => ?_
  refine find_corresponds lawful (Resolve.methodNamed_uniform lawful.same _ _ _) fun allocate => ?_
  refine find_corresponds lawful (Resolve.typeNamed_uniform lawful.same _) fun arrayType => ?_
  refine find_corresponds lawful (Resolve.methodNamed_uniform lawful.same _ _ _) fun getClass => ?_
  refine find_corresponds lawful (Resolve.typeNamed_uniform lawful.same _) fun classType => ?_
  have nothing : StandAll c.stands [] (none : Option Operand).toList
      (none : Option Operand).toList := .nil
  have allocated : ∀ var,
      (Statement.method allocate none [element, .constant (.int 0)] (some var)).Corresponds c.vars
        c.constants c.stands [slot, none]
        (.method allocate none [element', .constant (.int 0)] (some (c.vars var))) := fun var =>
    .twins (.method allocate (some var) nothing
      (.cons given (.cons (stands_none lawful _) .nil)))
  -- An array of the element type is allocated, and asked for its class.
  refine Parallel.bind (temporary_corresponds lawful arrayType allocated) ?_
  rintro array _ rfl
  have callee : StandAll c.stands [none] (some (Operand.var array)).toList
      (some (Operand.var (c.vars array))).toList :=
    .cons (stands_none lawful (.var array)) .nil
  exact Parallel.discard (define_corresponds lawful own _ fun var =>
    .twins (.method getClass (some var) callee .nil))

end Direct

/-- Both compilations store a value in a field. -/
theorem writeField_corresponds {slot : Option Plan} (receiver : Option Var)
    (field : FieldReference) {value value' : Lowering ρ Operand}
    (supplied : c.Steps (c.stands slot) value value') :
    c.Acts (writeField receiver field value) (writeField (receiver.map c.vars) field value') := by
  refine find_corresponds lawful (Resolve.field_uniform lawful.same field) fun handle => ?_
  refine Parallel.bind supplied fun value value' given => ?_
  exact emit_corresponds lawful (.twins (.field handle receiver given))

/-! ### Reflective steps -/

variable (helpers : HelperLibrary)

/-- Both compilations find the same routine of the helper class. -/
theorem helperRoutine_corresponds (name : String) :
    c.Steps Eq (helperRoutine helpers name) (helperRoutine helpers name) :=
  resolve_corresponds lawful (Resolve.helper_uniform lawful.same _ name)

/-- Both compilations find the same routine for an operand, whatever they read for it. -/
theorem operandRoutine_corresponds (purpose : HelperPurpose) {slot : Option Plan}
    {operand operand' : Operand} (given : c.stands slot operand operand') :
    c.Steps Eq (operandRoutine helpers purpose operand)
      (operandRoutine helpers purpose operand') := by
  refine Parallel.get_bind fun session session' start => ?_
  rw [lawful.typeName start given]
  exact helperRoutine_corresponds lawful helpers _ session session' start

/-- Both compilations find a field by the same operands. -/
theorem fieldLocator_corresponds (field : FieldReference) :
    c.Steps (StandAll c.stands [none, none]) (fieldLocator field) (fieldLocator field) := by
  refine find_corresponds lawful (Resolve.load_uniform lawful.same _) fun loaded => ?_
  exact .pure (.cons (stands_none lawful _) (.cons (stands_none lawful _) .nil))

/-- Both compilations have an object for a field access, which is null when the field is static. -/
theorem receiverOrNull_corresponds {slot : Option Plan} {receiver receiver' : Option Operand}
    (made : receiver = none → slot = none)
    (given : Option.Rel (c.stands slot) receiver receiver') :
    c.Steps (c.stands slot) (receiverOrNull receiver) (receiverOrNull receiver') := by
  cases given with
  | some given => exact .pure given
  | none =>
    obtain rfl := made rfl
    refine Parallel.bind (nullVar_corresponds lawful) ?_
    rintro object _ rfl
    exact .pure (stands_none lawful (.var object))

section Reflective

variable {owner : String} (own : c.common owner)

/-- Both compilations store a value in an array. -/
theorem setElement_corresponds {place slot : Option Plan}
    (array : Var) {index index' value value' : Lowering ρ Operand}
    (indexed : c.Steps (c.stands place) index index')
    (supplied : c.Steps (c.stands slot) value value') :
    c.Acts (setElement helpers array index value)
      (setElement helpers (c.vars array) index' value') := by
  refine Parallel.bind indexed fun index index' placed => ?_
  refine Parallel.bind supplied fun value value' given => ?_
  refine Parallel.bind_eq (operandRoutine_corresponds lawful helpers .setElement given)
    fun helper => ?_
  exact emit_corresponds lawful
    (.twins (.reflection helper none
      (.cons (stands_none lawful (.var array)) (.cons placed (.cons given .nil)))))

/-- Both compilations store a value in a field through the helpers. -/
theorem setField_corresponds {object slot : Option Plan} {receiver receiver' : Option Operand}
   
    (made : receiver = none → object = none)
    (received : Option.Rel (c.stands object) receiver receiver') (field : FieldReference)
    {value value' : Lowering ρ Operand} (supplied : c.Steps (c.stands slot) value value') :
    c.Acts (setField helpers receiver field value) (setField helpers receiver' field value') := by
  refine Parallel.bind supplied fun value value' given => ?_
  refine Parallel.bind_eq (operandRoutine_corresponds lawful helpers .setField given)
    fun helper => ?_
  refine Parallel.bind (fieldLocator_corresponds lawful field) fun locator locator' located => ?_
  refine Parallel.bind (receiverOrNull_corresponds lawful made received)
    fun first first' related => ?_
  exact emit_corresponds lawful
    (.twins (.reflection helper none ((StandAll.cons related located).append (.cons given .nil))))

include own

/-- Both compilations create an object without a constructor. -/
theorem createUninitialized_corresponds (type : ValueType) :
    c.Acts (createUninitialized helpers owner type)
      (createUninitialized helpers (c.names owner) type) := by
  refine find_corresponds lawful (Resolve.runtimeType_uniform lawful.same type) fun type => ?_
  refine Parallel.bind_eq (helperRoutine_corresponds lawful helpers _) fun helper => ?_
  exact give_corresponds lawful own type fun var =>
    .reflection helper (some var) (.cons (stands_none lawful _) .nil)

/-- Both compilations create an array, with the same arguments but for its length. -/
theorem createArray_corresponds {slot : Option Plan}
    (type : ValueType) {length length' : Lowering ρ Operand}
    (supplied : c.Steps (c.stands slot) length length') :
    c.Acts (createArray helpers owner type length)
      (createArray helpers (c.names owner) type length') := by
  refine Parallel.bind_eq (arrayType_corresponds lawful owner type) fun type => ?_
  refine Parallel.bind supplied fun length length' given => ?_
  refine Parallel.bind_eq (helperRoutine_corresponds lawful helpers _) fun helper => ?_
  -- Only the routine for all types is told the type of the elements.
  cases helpers.newArray.specializedFor? ((type.component?.map RuntimeType.typeName).getD "") with
  | some _ =>
    exact give_corresponds lawful own type fun var =>
      .reflection helper (some var) (.cons given .nil)
  | none =>
    exact give_corresponds lawful own type fun var =>
      .reflection helper (some var) (.cons (stands_none lawful _) (.cons given .nil))

/-- Both compilations take an element of an array. -/
theorem getElement_corresponds {object place : Option Plan}
    {array array' index index' : Lowering ρ Operand} (elementType : ValueType)
    (received : c.Steps (c.stands object) array array')
    (indexed : c.Steps (c.stands place) index index') :
    c.Acts (getElement helpers owner array index elementType)
      (getElement helpers (c.names owner) array' index' elementType) := by
  refine Parallel.bind received fun array array' given => ?_
  refine Parallel.bind indexed fun index index' placed => ?_
  refine find_corresponds lawful (Resolve.runtimeType_uniform lawful.same _) fun type => ?_
  refine Parallel.bind_eq (helperRoutine_corresponds lawful helpers _) fun helper => ?_
  exact give_corresponds lawful own type fun var =>
    .reflection helper (some var) (.cons given (.cons placed .nil))

/-- Both compilations take the value of a field through the helpers. -/
theorem getField_corresponds {object : Option Plan} {receiver receiver' : Option Operand}
   
    (made : receiver = none → object = none)
    (received : Option.Rel (c.stands object) receiver receiver') (field : FieldReference) :
    c.Acts (getField helpers owner receiver field)
      (getField helpers (c.names owner) receiver' field) := by
  refine find_corresponds lawful (Resolve.runtimeType_uniform lawful.same _) fun type => ?_
  refine Parallel.bind_eq (helperRoutine_corresponds lawful helpers _) fun helper => ?_
  refine Parallel.bind (fieldLocator_corresponds lawful field) fun locator locator' located => ?_
  refine Parallel.bind (ensureUnbound_corresponds lawful own) fun _ _ _ => ?_
  refine Parallel.bind (receiverOrNull_corresponds lawful made received)
    fun first first' related => ?_
  exact give_corresponds lawful own type fun var =>
    .reflection helper (some var) (.cons related located)

end Reflective

end TestPlan.Lower
