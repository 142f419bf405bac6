import TestPlan.Proofs.Lowering.Confined
import TestPlan.Proofs.Lowering.Requests

/-! All plans are compiled without failures that the class space gives no reason for. -/

namespace TestPlan

namespace Lower

variable {space : ClassSpace} {helpers : HelperLibrary} {config : CompilerConfig}

/-! ### Direct steps -/

/-- The type of a result is looked up. -/
theorem resultTarget_works (method : MethodReference) (owner : Option String) :
    Works space helpers (resultTarget method owner) := by
  cases owner with
  | none => exact .pure none
  | some owner =>
    refine Confined.bind ?_ fun type => .pure (some (owner, type))
    refine (resolve_works (Resolve.runtimeType_looks _)).bind fun type => ?_
    dsimp only
    split
    · exact .throw_bind trivial
    · exact .pure type

/-- A method or constructor is looked up and called. -/
theorem invoke_works (method : MethodReference) (owner : Option String)
    {callee : Lower (Option Operand)} {args : Lower (List Operand)}
    (received : Works space helpers callee) (supplied : Works space helpers args) :
    Works space helpers (invoke method callee args owner) := by
  refine Confined.bind ?_ fun _ => ?_
  · cases owner with
    | none => exact .pure ()
    | some owner => exact ensureUnbound_works owner
  · split
    · exact (resolve_works (Resolve.constructor_looks method)).bind fun _ =>
        supplied.bind fun _ => append_works _ _
    · exact (resolve_works (Resolve.method_looks method)).bind fun _ =>
        (resultTarget_works method owner).bind fun _ => received.bind fun _ =>
          supplied.bind fun _ => append_works _ _

/-- A constructor without parameters is looked up and called. -/
theorem createDefault_works (owner className : String) :
    Works space helpers (createDefault owner className) :=
  (resolve_works (Resolve.defaultConstructor_looks className)).bind fun _ => append_works _ _

/-- An enum constant is looked up and taken. -/
theorem enumValue_works (owner className name : String) :
    Works space helpers (enumValue owner className name) :=
  (resolve_works (Resolve.load_looks _)).bind fun loaded =>
    (resolve_works (Resolve.enumConstant_looks loaded name)).bind fun _ =>
      (define_works _ _ _).bind fun _ => .pure ()

/-- A field is looked up and read. -/
theorem readField_works (owner : String) (field : FieldReference)
    {receiver : Lower (Option Operand)} (received : Works space helpers receiver) :
    Works space helpers (readField owner field receiver) :=
  (resolve_works (Resolve.field_looks field)).bind fun _ =>
    (resolve_works (Resolve.runtimeType_looks _)).bind fun _ => received.bind fun _ =>
      (define_works _ _ _).bind fun _ => .pure ()

/-- A field is looked up and written. -/
theorem writeField_works (receiver : Option Var) (field : FieldReference) {value : Lower Operand}
    (supplied : Works space helpers value) :
    Works space helpers (writeField receiver field value) :=
  (resolve_works (Resolve.field_looks field)).bind fun _ => supplied.bind fun _ => emit_works _

/-- An array is created, unless its length is no literal. -/
theorem newArray_works (owner : String) (type : ValueType) {length : Except CompileError Nat}
    (warranted : ∀ error, length = .error error → error.Warranted space helpers) :
    Works space helpers (newArray owner type length) :=
  (arrayType_works owner type).bind fun _ => (ofExcept_works warranted).bind fun _ =>
    (define_works _ _ _).bind fun _ => .pure ()

/-- The class object of a type is taken. -/
theorem classConstant_works (owner : String) (type : ValueType) :
    Works space helpers (classConstant owner type) :=
  (resolve_works (Resolve.typeNamed_looks classClass)).bind fun _ =>
    (resolve_works (Resolve.runtimeType_looks type)).bind fun _ =>
      (define_works _ _ _).bind fun _ => .pure ()

/-- The class object of an array type is taken from an array. -/
theorem arrayClassConstant_works (owner : String) {element : Lower Operand}
    (supplied : Works space helpers element) :
    Works space helpers (arrayClassConstant owner element) :=
  (ensureUnbound_works owner).bind fun _ => supplied.bind fun _ =>
    (resolve_works (Resolve.methodNamed_looks reflectArrayClass "newInstance"
      [classClass, "int"])).bind fun newInstance =>
    (resolve_works (Resolve.typeNamed_looks newInstance.returns)).bind fun _ =>
    (resolve_works (Resolve.methodNamed_looks objectClass "getClass" [])).bind fun _ =>
    (resolve_works (Resolve.typeNamed_looks classClass)).bind fun _ =>
    (temporary_works _ _).bind fun _ => (define_works _ _ _).bind fun _ => .pure ()

/-! ### Reflective steps -/

/-- A routine that is selected for a step is looked up. -/
theorem helperRoutine_works {name : String} (selects : helpers.Selects name) :
    Works space helpers (helperRoutine helpers name) :=
  resolve_works (Resolve.helper_looks selects)

/-- The routine for the type of an operand is looked up. -/
theorem operandRoutine_works (purpose : HelperPurpose) (operand : Operand) :
    Works space helpers (operandRoutine helpers purpose operand) :=
  .get_bind fun _ _ => helperRoutine_works (.family purpose _)

/-- The class of a field is looked up. -/
theorem fieldLocator_works (field : FieldReference) : Works space helpers (fieldLocator field) :=
  (resolve_works (Resolve.load_looks _)).bind fun _ => .pure _

/-- A static field is accessed with null. -/
theorem receiverOrNull_works (receiver : Option Operand) :
    Works space helpers (receiverOrNull receiver) := by
  cases receiver with
  | some receiver => exact .pure receiver
  | none => exact nullVar_works.bind fun var => .pure (Operand.var var)

/-- An object is created without a constructor. -/
theorem createUninitialized_works (owner : String) (type : ValueType) :
    Works space helpers (createUninitialized helpers owner type) :=
  (resolve_works (Resolve.runtimeType_looks type)).bind fun _ =>
    (helperRoutine_works .newInstance).bind fun _ => append_works _ _

/-- An array is created by a routine. -/
theorem createArray_works (owner : String) (type : ValueType) {length : Lower Operand}
    (supplied : Works space helpers length) :
    Works space helpers (createArray helpers owner type length) :=
  (arrayType_works owner type).bind fun _ => supplied.bind fun _ =>
    (helperRoutine_works (.family .newArray _)).bind fun _ => append_works _ _

/-- An element is stored by a routine. -/
theorem setElement_works (array : Var) {index value : Lower Operand}
    (indexed : Works space helpers index) (supplied : Works space helpers value) :
    Works space helpers (setElement helpers array index value) :=
  indexed.bind fun _ => supplied.bind fun value =>
    (operandRoutine_works .setElement value).bind fun _ => emit_works _

/-- An element is taken by a routine. -/
theorem getElement_works (owner : String) (elementType : ValueType) {array index : Lower Operand}
    (received : Works space helpers array) (indexed : Works space helpers index) :
    Works space helpers (getElement helpers owner array index elementType) :=
  received.bind fun _ => indexed.bind fun _ =>
    (resolve_works (Resolve.runtimeType_looks elementType)).bind fun _ =>
      (helperRoutine_works (.family .getElement _)).bind fun _ => append_works _ _

/-- A field is written by a routine. -/
theorem setField_works (receiver : Option Operand) (field : FieldReference) {value : Lower Operand}
    (supplied : Works space helpers value) :
    Works space helpers (setField helpers receiver field value) :=
  supplied.bind fun value => (operandRoutine_works .setField value).bind fun _ =>
    (fieldLocator_works field).bind fun _ => (receiverOrNull_works receiver).bind fun _ =>
      emit_works _

/-- A field is read by a routine. -/
theorem getField_works (owner : String) (receiver : Option Operand) (field : FieldReference) :
    Works space helpers (getField helpers owner receiver field) :=
  (resolve_works (Resolve.runtimeType_looks _)).bind fun _ =>
    (helperRoutine_works (.family .getField _)).bind fun _ =>
      (fieldLocator_works field).bind fun _ => (ensureUnbound_works owner).bind fun _ =>
        (receiverOrNull_works receiver).bind fun _ => append_works _ _

/-! ### All kinds of plans -/

mutual

/-- A plan fails for no class or routine without reason. -/
theorem lowerKind_works (owner : String) :
    ∀ kind : PlanKind, Works space config.helpers (lowerKind config owner kind)
  | .actions steps => lowerActions_works owner steps
  | .reflection steps => lowerReflectiveActions_works owner steps
  | .testCall call => lowerTestCall_works call
  | .primitive value => (literalLeaf_works owner value).bind fun _ => .pure ()
  | .text value => (textLeaf_works owner value).bind fun _ => .pure ()
  | .mock _ => .throw trivial
  | .unknown _ => .throw trivial

/-- Direct steps fail for no class or routine without reason. -/
theorem lowerActions_works (owner : String) :
    ∀ steps : List Action, Works space config.helpers (lowerActions config owner steps)
  | [] => .pure ()
  | step :: rest => (lowerAction_works owner step).bind fun _ => lowerActions_works owner rest

/-- Reflective steps fail for no class or routine without reason. -/
theorem lowerReflectiveActions_works (owner : String) :
    ∀ steps : List ReflectiveAction,
      Works space config.helpers (lowerReflectiveActions config owner steps)
  | [] => .pure ()
  | step :: rest =>
    (lowerReflectiveAction_works owner step).bind fun _ => lowerReflectiveActions_works owner rest

/-- A direct step fails for no class or routine without reason. -/
theorem lowerAction_works (owner : String) :
    ∀ step : Action, Works space config.helpers (lowerAction config owner step)
  | .arrayWrite _ value =>
    (ownerVar_works owner).bind fun _ =>
      (ofExcept_works fun _ => literalIndex_warranted).bind fun _ =>
        (operand_works value).bind fun _ => emit_works _
  | .constructorCall constructor args
  | .externalConstructorCall constructor args =>
    invoke_works constructor (some owner) (.pure none) (operands_works args)
  | .innerClassConstructorCall _ _ _ => .throw trivial
  | .defaultConstructorCall className => createDefault_works owner className
  | .enumValueCreation className name => enumValue_works owner className name
  | .methodCall method args =>
    (ownerVar_works owner).bind fun _ => invoke_works method none (.pure _) (operands_works args)
  | .externalMethodCall method receiver args =>
    invoke_works method (some owner) (receiverOperand_works receiver) (operands_works args)
  | .staticMethodCall method args => invoke_works method none (.pure none) (operands_works args)
  | .fieldGetter receiver field => readField_works owner field (.map _ (operand_works receiver))
  | .staticFieldGetter field => readField_works owner field (.pure none)
  | .fieldSetter field value =>
    (ownerVar_works owner).bind fun receiver =>
      writeField_works (some receiver) field (operand_works value)
  | .staticFieldSetter field value => writeField_works none field (operand_works value)
  | .newArray type _ => newArray_works owner type fun _ => literalIndex_warranted
  | .newArrayWithInitializer type elements =>
    (arrayType_works owner type).bind fun _ => (define_works _ _ _).bind fun array =>
      storeElements_works array 0 elements
  | .classConstantGetter type => classConstant_works owner type
  | .arrayClassConstantGetter elementType =>
    arrayClassConstant_works owner (operand_works elementType)

/-- A reflective step fails for no class or routine without reason. -/
theorem lowerReflectiveAction_works (owner : String) :
    ∀ step : ReflectiveAction,
      Works space config.helpers (lowerReflectiveAction config owner step)
  | .newInstance type => createUninitialized_works owner type
  | .newArray type length => createArray_works owner type (operand_works length)
  | .arrayWrite index value =>
    (ownerVar_works owner).bind fun array =>
      setElement_works array (operand_works index) (operand_works value)
  | .arrayRead array index elementType =>
    getElement_works owner elementType (operand_works array) (operand_works index)
  | .setField field value =>
    (ownerVar_works owner).bind fun receiver =>
      setField_works (some (.var receiver)) field (operand_works value)
  | .setStaticField field value => setField_works none field (operand_works value)
  | .getField receiver field =>
    (operand_works receiver).bind fun receiver => getField_works owner (some receiver) field
  | .getStaticField field => getField_works owner none field

/-- The call under test fails for no class or routine without reason. -/
theorem lowerTestCall_works :
    ∀ call : TestCall, Works space config.helpers (lowerTestCall config call)
  | .mk method receiver args =>
    (invoke_works method none (receiverOperand_works receiver) (operands_works args)).bind fun _ =>
      .change fun _ kept => kept

/-- The value of a plan is read. -/
theorem operand_works : ∀ plan : Plan, Works space config.helpers (operand config plan)
  | .mk name kind => by
    have inner : Works space config.helpers (lowerKind config name kind) :=
      lowerKind_works name kind
    unfold operand
    refine .get_bind fun session _ => ?_
    split
    · exact .pure _
    · split
      · split
        · exact .pure _
        · exact (literalLeaf_works name _).bind fun _ => .pure _
      · exact .pure _
      · -- What a compiled plan has become is looked up again.
        refine (once_works config name inner).bind fun _ => .get_bind fun later _ => ?_
        split
        · exact .pure _
        · exact .throw trivial

/-- The values of plans are read one by one. -/
theorem operands_works :
    ∀ plans : List Plan, Works space config.helpers (operands config plans)
  | [] => .pure []
  | plan :: rest =>
    (operand_works plan).bind fun first => (operands_works rest).bind fun others =>
      .pure (first :: others)

/-- The value of a receiver is read. -/
theorem receiverOperand_works :
    ∀ receiver : Option Plan, Works space config.helpers (receiverOperand config receiver)
  | none => .pure none
  | some plan => .map some (operand_works plan)

/-- The values of elements are read and stored one by one. -/
theorem storeElements_works (array : Var) :
    ∀ (position : Nat) (plans : List Plan),
      Works space config.helpers (storeElements config array position plans)
  | _, [] => .pure ()
  | position, plan :: rest =>
    (operand_works plan).bind fun _ => (emit_works _).bind fun _ =>
      storeElements_works array (position + 1) rest

end

/-! ### Whole tests -/

/-- A plan that is a root fails for no class or routine without reason. -/
theorem compile_works (plan : Plan) : Works space config.helpers (compile config plan) :=
  once_works config plan.name (lowerKind_works plan.name plan.kind)

/-- All that a test needs fails for no class or routine without reason. -/
theorem compileParameters_works (parameters : Parameters) :
    Works space config.helpers (compileParameters config parameters) :=
  .forM compile_works parameters.roots

/-- A whole test fails for no class or routine without reason. -/
theorem compileTest_works (sharing : Sharing) (method : MethodReference)
    (parameters : Parameters) :
    Works space config.helpers (compileTest sharing config method parameters) := by
  refine Confined.bind (ofExcept_works fun error failed => ?_) fun _ =>
    (compileParameters_works parameters).bind fun _ =>
      (lowerTestCall_works _).bind fun _ => .get_bind fun _ _ => .pure _
  unfold checkNames at failed
  split at failed
  · split at failed <;> cases failed
    trivial
  · cases failed

end Lower

/-- A request fails for no class or routine without reason. -/
theorem Request.compile_works {space : ClassSpace} (config : CompilerConfig) :
    ∀ request : Request, Works space config.helpers (request.compile config)
  | .plan root => Lower.compile_works root
  | .parameters needed => Lower.compileParameters_works needed
  | .testCall call => Lower.lowerTestCall_works call

/-- Requests leave the class space as it is, whether they succeed or not. -/
theorem Compilation.space_answerAll (config : CompilerConfig) (session : Session)
    (requests : List Request) :
    (session.answerAll config requests).loader.space = session.loader.space := by
  unfold answerAll
  induction requests generalizing session with
  | nil => rfl
  | cons request rest ih =>
    rw [List.foldl_cons, ih]
    have confined := request.compile_works config session rfl
    unfold answer
    revert confined
    cases request.compile config session with
    | ok _ after => exact id
    | error error after => exact And.left

end TestPlan
