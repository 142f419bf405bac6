import TestPlan.Lowering.Direct
import TestPlan.Lowering.Reflective
import TestPlan.Proofs.Lowering.Ensures

/-! What the lowering of each step ensures, given what the readings of its operands ensure. -/

namespace TestPlan

variable {ρ α : Type} [ClassLoading ρ] {fail : CompileError → Prop} {session : Compilation ρ}

/-- A step that may be taken at any later time, and then supplies operands that are known. -/
def Supplies (fail : CompileError → Prop) (step : Lowering ρ α) (read : α → List Operand)
    (session : Compilation ρ) : Prop :=
  ∀ later, Moves session later →
    Ensures fail step later fun found after => after.Knows (read found)

/-- What may be taken at any later time may be taken later than that. -/
theorem Supplies.later {step : Lowering ρ α} {read : α → List Operand} {later : Compilation ρ}
    (supplies : Supplies fail step read session) (moves : Moves session later) :
    Supplies fail step read later :=
  fun last more => supplies last (moves.trans more)

/-- No operands are supplied at any time. -/
theorem Supplies.nothing : Supplies fail (pure none : Lowering ρ (Option Operand)) Option.toList
    session :=
  fun _ _ => .pure (by simp)

namespace Lower

variable (ordinary : ∀ error, CompileError.Ordinary error → fail error)

include ordinary

/-- An array type is found by loading a class. -/
theorem arrayType_ensures (owner : String) (type : ValueType) :
    Ensures fail (arrayType owner type) session fun _ _ => True := by
  refine .bind (resolve_ensures ordinary (Resolve.runtimeType_plain type)) fun found _ _ _ => ?_
  dsimp only
  split
  · exact .throw (ordinary _ trivial)
  · exact .pure trivial

/-! ### Direct steps -/

/-- The result of a call has a type that is not void. -/
theorem resultType_ensures (owner : String) (method : MethodReference) :
    Ensures fail (resultType owner method) session fun _ _ => True := by
  unfold resultType
  refine .bind (resolve_ensures ordinary (Resolve.runtimeType_plain _)) fun type _ _ _ => ?_
  split
  · exact .throw (ordinary _ trivial)
  · exact .pure trivial

/-- The result of a call goes to a plan only with its type. -/
theorem resultTarget_ensures (method : MethodReference) (owner : Option String) :
    Ensures fail (resultTarget method owner) session fun _ _ => True := by
  cases owner with
  | none => exact .pure trivial
  | some name =>
    exact (resultType_ensures ordinary name method).bind fun _ _ _ _ => .pure trivial

/-- A constructor call reads its arguments. -/
theorem invokeConstructor_ensures (constructor : MethodReference) (owner : Option String)
    {args : Lowering ρ (List Operand)} (supplied : Supplies fail args id session) :
    Ensures fail (invokeConstructor constructor args owner) session fun _ _ => True := by
  refine .bind (resolve_ensures ordinary (Resolve.constructor_plain constructor)) ?_
  rintro ⟨loaded, handle⟩ later moves _
  -- The arguments are read after the lookup, and nothing comes between them and the call.
  refine (supplied later moves).bind fun args _ _ known => ?_
  exact append_ensures ordinary (fun _ => rfl) fun _ => known

/-- A method call reads its receiver and its arguments. -/
theorem invokeMethod_ensures (method : MethodReference) (owner : Option String)
    {callee : Lowering ρ (Option Operand)} {args : Lowering ρ (List Operand)}
    (received : Supplies fail callee Option.toList session)
    (supplied : Supplies fail args id session) :
    Ensures fail (invokeMethod method callee args owner) session fun _ _ => True := by
  refine .bind (resolve_ensures ordinary (Resolve.method_plain method)) fun handle _ found _ => ?_
  refine .bind (resultTarget_ensures ordinary method owner) fun target later typed _ => ?_
  refine (received later (found.trans typed)).bind fun callee _ read receiver => ?_
  refine (supplied _ ((found.trans typed).trans read)).bind fun args _ more known => ?_
  -- The receiver is read first, and it is still known when the arguments are.
  exact append_ensures ordinary (fun _ => rfl) fun _ =>
    Compilation.knows_append.mpr ⟨receiver.mono more.keeps, known⟩

/-- A call of a method or constructor reads its receiver and its arguments. -/
theorem invoke_ensures (method : MethodReference) (owner : Option String)
    {callee : Lowering ρ (Option Operand)} {args : Lowering ρ (List Operand)}
    (received : Supplies fail callee Option.toList session)
    (supplied : Supplies fail args id session) :
    Ensures fail (invoke method callee args owner) session fun _ _ => True := by
  -- A plan that already has a value is refused before anything is looked up.
  have unbound : Ensures fail (owner.forM ensureUnbound) session fun _ _ => True := by
    cases owner with
    | none => exact .pure trivial
    | some name =>
      exact (ensureUnbound_ensures ordinary name).mono (fun _ => id) fun _ _ _ => trivial
  refine unbound.bind fun _ _ moves _ => ?_
  split
  · exact invokeConstructor_ensures ordinary method owner (supplied.later moves)
  · exact invokeMethod_ensures ordinary method owner (received.later moves) (supplied.later moves)

/-- The constructor without parameters reads nothing. -/
theorem createDefault_ensures (owner className : String) :
    Ensures fail (createDefault owner className) session fun _ _ => True := by
  refine .bind (resolve_ensures ordinary (Resolve.defaultConstructor_plain className)) ?_
  rintro ⟨loaded, handle⟩ later moves _
  exact append_ensures ordinary (fun _ => rfl) fun _ => Compilation.knows_nil

/-- An enum constant reads nothing. -/
theorem enumValue_ensures (owner className name : String) :
    Ensures fail (enumValue owner className name) session fun _ _ => True := by
  refine .bind (resolve_ensures ordinary (Resolve.load_plain _)) fun loaded _ _ _ => ?_
  refine .bind (resolve_ensures ordinary (Resolve.enumConstant_plain loaded name)) fun _ _ _ _ => ?_
  refine .bind (define_ensures ordinary (fun _ => rfl) fun _ => Compilation.knows_nil) ?_
  exact fun _ _ _ _ => .pure trivial

/-- A read of a field reads the object. -/
theorem readField_ensures (owner : String) (field : FieldReference)
    {receiver : Lowering ρ (Option Operand)}
    (received : Supplies fail receiver Option.toList session) :
    Ensures fail (readField owner field receiver) session fun _ _ => True := by
  refine .bind (resolve_ensures ordinary (Resolve.field_plain field)) fun handle _ found _ => ?_
  refine .bind (resolve_ensures ordinary (Resolve.runtimeType_plain _)) fun type _ typed _ => ?_
  refine (received _ (found.trans typed)).bind fun receiver _ _ known => ?_
  refine .bind (define_ensures ordinary (fun _ => rfl) fun _ => known) ?_
  exact fun _ _ _ _ => .pure trivial

/-- A store in a field reads the object and the value. -/
theorem writeField_ensures {receiver : Option Var} (field : FieldReference)
    {value : Lowering ρ Operand} (held : ∀ var ∈ receiver, session.Holds var)
    (supplied : Supplies fail value (fun found => [found]) session) :
    Ensures fail (writeField receiver field value) session fun _ _ => True := by
  refine .bind (resolve_ensures ordinary (Resolve.field_plain field)) fun handle _ found _ => ?_
  refine (supplied _ found).bind fun value _ more known => emit_ensures ordinary rfl ?_
  -- The object was known from the start, and the value has just been read.
  intro var used
  rcases List.mem_append.mp used with object | stored
  · exact (found.trans more).keeps.holds (held var (Option.mem_toList.mp object))
  · exact Compilation.knows_singleton.mp known var (Option.mem_toList.mp stored)

/-- A new array reads nothing. -/
theorem newArray_ensures (owner : String) (type : ValueType) {length : Except CompileError Nat}
    (admitted : ∀ error, length = .error error → fail error) :
    Ensures fail (newArray owner type length) session fun _ _ => True := by
  refine .bind (arrayType_ensures ordinary owner type) fun type _ _ _ => ?_
  -- The length is a literal, so it is no operand of the statement.
  refine .bind (ofExcept_ensures admitted) fun length _ _ _ => ?_
  refine .bind (define_ensures ordinary (fun _ => rfl) fun _ => Compilation.knows_nil) ?_
  exact fun _ _ _ _ => .pure trivial

/-- A class object reads nothing. -/
theorem classConstant_ensures (owner : String) (type : ValueType) :
    Ensures fail (classConstant owner type) session fun _ _ => True := by
  refine .bind (resolve_ensures ordinary (Resolve.typeNamed_plain classClass))
    fun classType _ _ _ => ?_
  refine .bind (resolve_ensures ordinary (Resolve.runtimeType_plain type)) fun value _ _ _ => ?_
  refine .bind (define_ensures ordinary (fun _ => rfl) fun _ => Compilation.knows_nil) ?_
  exact fun _ _ _ _ => .pure trivial

/-- The class object of an array type reads the element type and the array made for it. -/
theorem arrayClassConstant_ensures (owner : String) {element : Lowering ρ Operand}
    (supplied : Supplies fail element (fun found => [found]) session) :
    Ensures fail (arrayClassConstant owner element) session fun _ _ => True := by
  refine .bind (ensureUnbound_ensures ordinary owner) fun _ _ start _ => ?_
  refine .bind (supplied _ start) fun element _ _ known => ?_
  refine .bind (resolve_ensures ordinary (Resolve.methodNamed_plain _ _ _))
    fun allocate _ first _ => ?_
  refine .bind (resolve_ensures ordinary (Resolve.typeNamed_plain _)) fun array _ second _ => ?_
  refine .bind (resolve_ensures ordinary (Resolve.methodNamed_plain _ _ _))
    fun getClass _ third _ => ?_
  refine .bind (resolve_ensures ordinary (Resolve.typeNamed_plain _)) fun type last fourth _ => ?_
  have known := known.mono (first.trans (second.trans (third.trans fourth))).keeps
  -- The plan may have got a value while the element type was read, and then the array is lost.
  exact both_ensures ordinary (some (owner, type))
    (fun _ => rfl) (fun _ => Compilation.knows_cons.mpr ⟨known, by simp⟩)
    (fun _ _ => rfl) (fun _ _ => rfl) nofun
    (fun var result some => by
      obtain ⟨result, rfl⟩ := Option.isSome_iff_exists.mp some.symm
      exact .array allocate getClass _ result)
    fun _ _ _ _ => ⟨allocate, _, fun _ => rfl⟩

/-! ### Reflective steps -/

/-- A routine of the helper class is found by loading it. -/
theorem helperRoutine_ensures (helpers : HelperLibrary) (name : String) :
    Ensures fail (helperRoutine helpers name) session fun _ _ => True :=
  (resolve_ensures ordinary (Resolve.helper_plain _ name)).mono (fun _ => id) fun _ _ _ => trivial

/-- A routine for the type of an operand is found by loading the helper class. -/
theorem operandRoutine_ensures (helpers : HelperLibrary) (purpose : HelperPurpose)
    (operand : Operand) :
    Ensures fail (operandRoutine helpers purpose operand) session fun _ _ => True :=
  .get_bind (helperRoutine_ensures ordinary _ _)

/-- The operands by which a field is found are constants. -/
theorem fieldLocator_ensures (field : FieldReference) :
    Ensures fail (fieldLocator field) session fun locator after => after.Knows locator := by
  refine .bind (resolve_ensures ordinary (Resolve.load_plain _)) fun loaded _ _ _ => ?_
  exact .pure (by simp)

/-- A helper call on an object, or on a null in its place, reads it and the arguments. -/
theorem receiverOrNull_ensures (helper : HelperRoutine) {receiver : Option Operand}
    {args : List Operand} (owner : Option (String × RuntimeType))
    (unbound : ∀ name type, owner = some (name, type) → session.bindings.isBound name = false)
    (received : session.Knows receiver.toList) (known : session.Knows args) :
    Ensures fail (do
      let receiver ← receiverOrNull receiver
      append owner (.reflection helper (receiver :: args))) session fun _ _ => True := by
  cases receiver with
  | some receiver =>
    -- A given receiver goes into the call as it is.
    rw [receiverOrNull, pure_bind]
    exact append_ensures ordinary (fun _ => rfl)
      fun _ => Compilation.knows_cons.mpr ⟨received, known⟩
  | none =>
    -- Without one, a null is declared that only the call will read.
    simp only [receiverOrNull, nullVar, bind_assoc, pure_bind]
    refine .bind (resolve_ensures ordinary (Resolve.typeNamed_plain _))
      fun type later moves same => ?_
    -- Looking up the type of null has bound nothing.
    exact both_ensures ordinary owner (fun _ => rfl) (fun _ => Compilation.knows_nil)
      (fun _ _ => rfl) (fun _ _ => rfl) (known.mono moves.keeps)
      (fun _ result _ => .receiver helper args result)
      fun name type owned bound => by simp [same, unbound name type owned] at bound

/-- An object without a constructor is told its type only. -/
theorem createUninitialized_ensures (helpers : HelperLibrary) (owner : String)
    (type : ValueType) :
    Ensures fail (createUninitialized helpers owner type) session fun _ _ => True := by
  refine .bind (resolve_ensures ordinary (Resolve.runtimeType_plain type)) fun type _ _ _ => ?_
  refine .bind (helperRoutine_ensures ordinary helpers _) fun helper _ _ _ => ?_
  exact append_ensures ordinary (fun _ => rfl) fun _ => by simp [Statement.uses, Operand.var?]

/-- A new array reads its length. -/
theorem createArray_ensures (helpers : HelperLibrary) (owner : String) (type : ValueType)
    {length : Lowering ρ Operand}
    (supplied : Supplies fail length (fun found => [found]) session) :
    Ensures fail (createArray helpers owner type length) session fun _ _ => True := by
  refine .bind (arrayType_ensures ordinary owner type) fun type _ typed _ => ?_
  refine .bind (supplied _ typed) fun length _ _ known => ?_
  refine .bind (helperRoutine_ensures ordinary helpers _) fun helper after found _ => ?_
  refine append_ensures ordinary (fun _ => rfl) fun _ => ?_
  -- The element type is a constant, so only the length is read.
  split
  · exact known.mono found.keeps
  · have read := known.mono found.keeps
    simpa [Compilation.Knows, Statement.uses, Operand.var?] using read

/-- A store in an array reads the array, the index and the value. -/
theorem setElement_ensures (helpers : HelperLibrary) {array : Var}
    {index value : Lowering ρ Operand} (held : session.Holds array)
    (indexed : Supplies fail index (fun found => [found]) session)
    (supplied : Supplies fail value (fun found => [found]) session) :
    Ensures fail (setElement helpers array index value) session fun _ _ => True := by
  refine .bind (indexed _ (.refl session)) fun index _ first position => ?_
  refine .bind (supplied _ first) fun value _ second known => ?_
  -- Finding the routine changes nothing of what has been read.
  refine .bind (operandRoutine_ensures ordinary helpers _ value) fun helper _ third _ => ?_
  refine emit_ensures ordinary rfl (Compilation.knows_var_cons.mpr
    ⟨(first.trans (second.trans third)).keeps.holds held, Compilation.knows_cons.mpr ⟨?_, ?_⟩⟩)
  · exact position.mono (second.trans third).keeps
  · exact known.mono third.keeps

/-- A read of an element reads the array and the index. -/
theorem getElement_ensures (helpers : HelperLibrary) (owner : String) (elementType : ValueType)
    {array index : Lowering ρ Operand}
    (received : Supplies fail array (fun found => [found]) session)
    (indexed : Supplies fail index (fun found => [found]) session) :
    Ensures fail (getElement helpers owner array index elementType) session fun _ _ => True := by
  refine .bind (received _ (.refl session)) fun array _ first object => ?_
  refine .bind (indexed _ first) fun index _ second position => ?_
  refine .bind (resolve_ensures ordinary (Resolve.runtimeType_plain _)) fun type _ third _ => ?_
  refine .bind (helperRoutine_ensures ordinary helpers _) fun helper _ fourth _ => ?_
  -- Both operands were read before the lookups, which keep them known.
  refine append_ensures ordinary (fun _ => rfl) fun _ => Compilation.knows_cons.mpr ⟨?_, ?_⟩
  · exact object.mono (second.trans (third.trans fourth)).keeps
  · exact position.mono (third.trans fourth).keeps

/-- A store in a field reads the object and the value. -/
theorem setField_ensures (helpers : HelperLibrary) {receiver : Option Operand}
    (field : FieldReference) {value : Lowering ρ Operand}
    (received : session.Knows receiver.toList)
    (supplied : Supplies fail value (fun found => [found]) session) :
    Ensures fail (setField helpers receiver field value) session fun _ _ => True := by
  refine .bind (supplied _ (.refl session)) fun value _ first known => ?_
  refine .bind (operandRoutine_ensures ordinary helpers _ value) fun helper _ second _ => ?_
  refine .bind (fieldLocator_ensures ordinary field) fun locator _ third located => ?_
  have known := known.mono (second.trans third).keeps
  -- The call has no result, so no plan can have got a value meanwhile.
  exact receiverOrNull_ensures ordinary helper none (fun _ _ absent => by cases absent)
    (received.mono (first.trans (second.trans third)).keeps)
    (Compilation.knows_append.mpr ⟨located, known⟩)

/-- A read of a field reads the object. -/
theorem getField_ensures (helpers : HelperLibrary) (owner : String) {receiver : Option Operand}
    (field : FieldReference) (received : session.Knows receiver.toList) :
    Ensures fail (getField helpers owner receiver field) session fun _ _ => True := by
  refine .bind (resolve_ensures ordinary (Resolve.runtimeType_plain _)) fun type _ first _ => ?_
  refine .bind (helperRoutine_ensures ordinary helpers _) fun helper _ second _ => ?_
  refine .bind (fieldLocator_ensures ordinary field) fun locator _ third located => ?_
  refine .bind (ensureUnbound_ensures ordinary owner) fun _ _ fourth unbound => ?_
  -- The plan is seen to have no value right before the call is appended.
  have moves := first.trans (second.trans (third.trans fourth))
  exact receiverOrNull_ensures ordinary helper (some (owner, type))
    (by rintro _ _ ⟨⟩; exact unbound)
    (received.mono moves.keeps) (located.mono fourth.keeps)

end Lower

end TestPlan
