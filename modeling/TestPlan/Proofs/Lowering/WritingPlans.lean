import TestPlan.Lowering.Compile
import TestPlan.Proofs.Lowering.WritingSteps

/-! Every plan that is compiled writes its own statements, and those of the plans it reads. -/

namespace TestPlan

variable {ρ : Type} [ClassLoading ρ] {setting : Setting ρ} {call : TestCall}
  {known : CompiledTest → Prop}

/-! ### Literals and texts -/

/-- A plan has one variable, with one type. -/
theorem CompiledTest.Owns.type_eq {built : CompiledTest} {owner : String}
    {type type' : RuntimeType} {var var' : Var} (owns : built.Owns owner type var)
    (owns' : built.Owns owner type' var') : type = type' := by
  cases owns.bound.symm.trans owns'.bound
  exact Option.some.inj (owns.typed.symm.trans owns'.typed)

/-- A literal or text declares the type of its variable. -/
theorem Setting.PrescribesLeaf.declares {built : CompiledTest} {plan : Plan} {position : Nat}
    {type : RuntimeType} {var : Var} (needed : Needed setting.roots plan)
    (prescribed : setting.PrescribesLeaf built plan position)
    (owns : built.Owns plan.name type var) : setting.Declares plan.name type := by
  cases prescribed with
  | @literal value constant type' _ kind found known owns' _ =>
    cases owns.type_eq owns'
    obtain ⟨primitive, known, rfl⟩ := Option.map_eq_some_iff.mp known
    -- A constant is of the type of its literal, which needs no lookup.
    have same : value.valueType = .primitive primitive := by
      cases value <;> cases found <;> cases known <;> rfl
    exact ⟨plan, .primitive primitive, needed, rfl, by simp [Plan.madeTypes, kind, same],
      _, _, .refl _, rfl⟩
  | text kind finds owns' _ =>
    cases owns.type_eq owns'
    rw [Resolve.typeNamed_stringClass_eq] at finds
    exact ⟨plan, _, needed, rfl, by simp [Plan.madeTypes, kind], finds⟩
  | null isNull finds owns' _ =>
    cases owns.type_eq owns'
    rw [Resolve.typeNamed_objectClass] at finds
    refine ⟨plan, _, needed, rfl, ?_, finds⟩
    obtain ⟨name, kind⟩ := plan
    -- Null is the only literal that is no constant.
    cases kind with
    | primitive value => cases value <;> first | exact List.mem_singleton_self _ | cases isNull
    | actions | reflection | testCall | text | mock | unknown => cases isNull

/-- A literal or text that is compiled gets its statement. -/
theorem Writes.leaf {plan : Plan} {step : Lowering ρ Var} (needed : Needed setting.roots plan)
    (made : ∀ {session var after}, Loads setting.loader session.loader →
      step session = .ok var after → var = session.nextVar ∧ LeafMade setting plan session after) :
    Writes setting call known step fun var built => built.bindings.get? plan.name = some var where
  written {session _ _} sound _ ran := by
    obtain ⟨rfl, @⟨loader, type, statement, loads, ready, uses, prescribed⟩⟩ :=
      made sound.loads ran
    -- A class may be loaded for the type before the statement is appended.
    have loaded : Sound setting call { session with loader } := { sound with
      orderly := { sound.orderly with }
      loads := sound.loads.trans loads }
    have owns := Compilation.owns_appended ready
    have there := @Compilation.at_appended _ { session with loader } statement
      (some (plan.name, type))
    have prescribed := fun later more =>
      prescribed later (there.mono more) (owns.mono more)
    refine ⟨{ (Compilation.keeps_appended ready).toKept with },
      append_of_ready (some plan.name) loaded ready (by rw [uses]; nofun) (fun name own => ?_)
        fun later more => .leaf needed (prescribed later more),
      fun later more => (owns.mono more).bound⟩
    cases own
    exact (prescribed _ (.refl _)).declares needed owns

/-- After the call under test everything stays sound. -/
theorem Writes.terminate : Writes setting call known
    (modify fun session => { session with terminated := true } : Lowering ρ Unit)
      fun _ _ => True where
  written sound _ ran := by
    cases ran
    exact ⟨.refl _, { sound with orderly := Move.terminate.orderly sound.orderly },
      fun _ _ => trivial⟩

namespace Setting

variable {plan read : Plan}

omit [ClassLoading ρ]

/-- What a direct step of a needed plan reads is needed. -/
theorem HasAction.needed {step : Action} (has : setting.HasAction plan step)
    (member : read ∈ step.reads) : Needed setting.roots read := by
  obtain ⟨needed, steps, kind, inside⟩ := has
  refine needed.read ?_
  rw [kind]
  exact List.mem_flatMap.mpr ⟨step, inside, member⟩

/-- What a reflective step of a needed plan reads is needed. -/
theorem HasReflectiveAction.needed {step : ReflectiveAction}
    (has : setting.HasReflectiveAction plan step) (member : read ∈ step.operands) :
    Needed setting.roots read := by
  obtain ⟨needed, steps, kind, inside⟩ := has
  refine needed.read ?_
  rw [kind]
  exact List.mem_flatMap.mpr ⟨step, inside, member⟩

end Setting

namespace Lower

/-! ### Operands -/

section Operand

variable (plan : Plan)

/-- A plan with a variable is read from it, and another one as the first reading says. -/
theorem boundOperand_writes {first : Lowering ρ Operand}
    (writes : Writes setting call known first fun found built => built.Denotes plan found) :
    Writes setting call known
      (do
        match (← get).bindings.get? plan.name with
        | some var => return .var var
        | none => first)
      fun found built => built.Denotes plan found where
  written {session _ _} sound lasts ran := by
    rw [get_bind] at ran
    cases bound : session.bindings.get? plan.name with
    | some var =>
      rw [bound] at ran
      cases ran
      exact ⟨.refl _, sound, fun later more => .var (more.get? bound)⟩
    | none =>
      rw [bound] at ran
      exact writes.written sound lasts ran

/-- A plan that is made of steps is compiled, and must have a variable then. -/
theorem onceOperand_writes {lower : Lowering ρ Unit}
    (writes : Writes setting call (fun _ => True) lower fun _ _ => True) :
    Writes setting call known
      (do
        once setting.config plan.name lower
        match (← get).bindings.get? plan.name with
        | some var => return .var var
        | none => throw (.noValue plan.name))
      fun found built => built.Denotes plan found :=
  .bind (.once writes) fun _ => boundOperand_writes plan .throw

variable {plan}

/-- A plan may be read where none need be. -/
theorem someOperand_writes {step : Lowering ρ Operand}
    (writes : Writes setting call known step fun found built => built.Denotes plan found) :
    Writes setting call known (some <$> step) fun found built =>
      built.DenoteAll [plan] found.toList := by
  rw [← bind_pure_comp]
  exact .bind writes fun _ => .pure fun _ holds => .cons holds.2 .nil

end Operand

/-! ### All kinds of plans -/

mutual

/-- A needed plan writes its own statements. -/
theorem lowerKind_writes (owner : String) :
    ∀ kind : PlanKind, Needed setting.roots (.mk owner kind) →
      Writes setting call (fun _ => True) (lowerKind setting.config owner kind) fun _ _ => True
  | .actions steps, needed =>
    lowerActions_writes (.mk owner (.actions steps)) steps fun _ member =>
      ⟨needed, steps, rfl, member⟩
  | .reflection steps, needed =>
    lowerReflectiveActions_writes (.mk owner (.reflection steps)) steps fun _ member =>
      ⟨needed, steps, rfl, member⟩
  | .testCall asked, needed =>
    lowerTestCall_writes asked (.inr ⟨owner, needed⟩) fun _ => needed.read
  | .primitive _, needed =>
    .bind (.leaf needed fun loads ran => literalLeaf_ok loads rfl ran) fun _ =>
      .pure fun _ _ => trivial
  | .text _, needed =>
    .bind (.leaf needed fun loads ran => textLeaf_ok loads rfl ran) fun _ =>
      .pure fun _ _ => trivial
  | .mock _, _ => .throw
  | .unknown _, _ => .throw
termination_by structural kind => kind

/-- Direct steps of a plan write their statements. -/
theorem lowerActions_writes (plan : Plan) :
    ∀ steps : List Action, (∀ step ∈ steps, setting.HasAction plan step) →
      Writes setting call (fun _ => True) (lowerActions setting.config plan.name steps)
        fun _ _ => True
  | [], _ => .pure fun _ _ => trivial
  | step :: rest, has =>
    .bind (lowerAction_writes plan step (has step (.head _))) fun _ =>
      (lowerActions_writes plan rest fun _ member => has _ (.tail _ member)).anytime
termination_by structural steps => steps

/-- Reflective steps of a plan write their statements. -/
theorem lowerReflectiveActions_writes (plan : Plan) :
    ∀ steps : List ReflectiveAction, (∀ step ∈ steps, setting.HasReflectiveAction plan step) →
      Writes setting call (fun _ => True) (lowerReflectiveActions setting.config plan.name steps)
        fun _ _ => True
  | [], _ => .pure fun _ _ => trivial
  | step :: rest, has =>
    .bind (lowerReflectiveAction_writes plan step (has step (.head _))) fun _ =>
      (lowerReflectiveActions_writes plan rest fun _ member => has _ (.tail _ member)).anytime
termination_by structural steps => steps

/-- A direct step writes its statements. -/
theorem lowerAction_writes (plan : Plan) :
    ∀ step : Action, setting.HasAction plan step →
      Writes setting call (fun _ => True) (lowerAction setting.config plan.name step)
        fun _ _ => True
  | .arrayWrite _ value, has => by
    refine .bind (.ownerVar plan.name) fun array => .take fun place placed => ?_
    refine .bind (operand_writes value (has.needed (.head _))).anytime fun operand => ?_
    exact .emit _ rfl fun holds there =>
      .direct has there (.arrayWrite holds.1.2 placed holds.2)
  | .constructorCall _ args, has =>
    invokes_writes none (fun _ => .pure fun _ _ => .nil)
      (operands_writes args fun _ => has.needed)
      (fun _ finds _ member => Option.mem_some.mp member ▸ has.declares rfl finds)
      fun invokes there => .direct has there (.constructorCall invokes)
  | .externalConstructorCall _ args, has =>
    invokes_writes none (fun _ => .pure fun _ _ => .nil)
      (operands_writes args fun _ => has.needed)
      (fun _ finds _ member => Option.mem_some.mp member ▸ has.declares rfl finds)
      fun invokes there => .direct has there (.externalConstructorCall invokes)
  | .innerClassConstructorCall _ _ _, _ => .throw
  | .defaultConstructorCall _, has => createDefault_writes has
  | .enumValueCreation _ _, has => enumValue_writes has
  | .methodCall method args, has => by
    refine .bind (.ownerVar plan.name) fun receiver => ?_
    have given : Writes setting call (fun _ => True)
        (pure (some (.var receiver)) : Lowering ρ (Option Operand))
        fun found _ => found = some (.var receiver) := .pure fun _ _ => rfl
    refine invoke_writes (fun _ => given) (operands_writes args fun _ => has.needed) nofun
      fun holds received supplied calls there => .direct has there (.methodCall holds.2 supplied ?_)
    -- A method is called on the very variable of the plan.
    cases calls with
    | constructor isConstructor finds receives => exact .constructor isConstructor finds receives
    | method isMethod finds typed receives =>
      cases received isMethod
      exact .method isMethod finds typed receives
  | .externalMethodCall method receiver args, has => by
    -- A constructor does not read its receiver, so only the arguments are needed for sure.
    have reads : ∀ read ∈ (if method.isConstructor then args else receiver.toList ++ args),
        Needed setting.roots read := fun _ => has.needed
    refine invokes_writes receiver (fun isMethod => ?_) (operands_writes args fun read member => ?_)
      (fun _ finds _ member => Option.mem_some.mp member ▸ has.declares rfl finds)
      fun invokes there => .direct has there (.externalMethodCall invokes)
    · rw [isMethod] at reads
      exact receiverOperand_writes receiver fun read member =>
        reads read (List.mem_append_left _ member)
    · refine reads read ?_
      split
      · exact member
      · exact List.mem_append_right _ member
  | .staticMethodCall _ args, has =>
    invokes_writes none (fun _ => .pure fun _ _ => .nil)
      (operands_writes args fun _ => has.needed) nofun
      fun invokes there => .direct has there (.staticMethodCall invokes)
  | .fieldGetter receiver _, has =>
    readField_writes has rfl (someOperand_writes (operand_writes receiver (has.needed (.head _))))
      fun {_ _ _ object _} finds typed denotes owns => by
        cases object with
        | none => cases denotes
        | some object =>
          obtain _ | ⟨denotes, _⟩ := denotes
          exact .fieldGetter finds typed denotes owns
  | .staticFieldGetter _, has =>
    readField_writes has rfl (.pure fun _ _ => .nil)
      fun {_ _ _ object _} finds typed denotes owns => by
        cases object with
        | none => exact .staticFieldGetter finds typed owns
        | some object => cases denotes
  | .fieldSetter _ value, has =>
    .bind (.ownerVar plan.name) fun _ =>
      writeField_writes has (operand_writes value (has.needed (.head _)))
        fun holds finds denotes => .fieldSetter finds holds.2 denotes
  | .staticFieldSetter _ value, has =>
    writeField_writes has (operand_writes value (has.needed (.head _)))
      fun _ finds denotes => .staticFieldSetter finds denotes
  | .newArray _ _, has => newArray_writes has
  | .newArrayWithInitializer type elements, has => by
    refine arrayType_writes fun found finds isArray => ?_
    refine .bind (.define _ (fun _ => rfl) (fun _ => has.declares rfl finds)
      fun _ owns there => .direct has there (.newArrayWithInitializer finds isArray owns))
      fun array => ?_
    -- The elements are stored in the array that has just been made for the plan.
    refine (storeElements_writes plan has array elements 0 rfl).weaken (fun _ holds => ?_)
      fun _ _ _ => id
    exact holds.2.bound
  | .classConstantGetter _, has => classConstant_writes has
  | .arrayClassConstantGetter elementType, has =>
    arrayClassConstant_writes has (operand_writes elementType (has.needed (.head _)))
termination_by structural step => step

/-- A reflective step writes its statements. -/
theorem lowerReflectiveAction_writes (plan : Plan) :
    ∀ step : ReflectiveAction, setting.HasReflectiveAction plan step →
      Writes setting call (fun _ => True) (lowerReflectiveAction setting.config plan.name step)
        fun _ _ => True
  | .newInstance _, has => createUninitialized_writes has
  | .newArray _ length, has =>
    createArray_writes has (operand_writes length (has.needed (.head _)))
  | .arrayWrite index value, has =>
    .bind (.ownerVar plan.name) fun _ => setElement_writes has (fun holds => holds.2)
      (operand_writes index (has.needed (.head _)))
      (operand_writes value (has.needed (.tail _ (.head _))))
  | .arrayRead array index _, has =>
    getElement_writes has (operand_writes array (has.needed (.head _)))
      (operand_writes index (has.needed (.tail _ (.head _))))
  | .setField _ value, has =>
    .bind (.ownerVar plan.name) fun _ => setField_writes has (fun holds => holds.2)
      (operand_writes value (has.needed (.head _)))
  | .setStaticField _ value, has =>
    setStaticField_writes has (operand_writes value (has.needed (.head _)))
  | .getField receiver _, has =>
    .bind (operand_writes receiver (has.needed (.head _))) fun _ =>
      getField_writes has fun holds => holds.2
  | .getStaticField _, has => getStaticField_writes has
termination_by structural step => step

/-- A call under test writes its statement. -/
theorem lowerTestCall_writes :
    ∀ asked : TestCall, setting.Asks call asked →
      (∀ read ∈ asked.operands, Needed setting.roots read) →
      Writes setting call (fun _ => True) (lowerTestCall setting.config asked) fun _ _ => True
  | .mk method receiver args, asks, needed => by
    refine .bind (invokes_writes receiver
      (fun _ => receiverOperand_writes receiver fun read member =>
        needed read (List.mem_append_left _ member))
      (operands_writes args fun read member => needed read (List.mem_append_right _ member))
      nofun fun invokes there => .testCall asks invokes there) fun _ => .terminate
termination_by structural asked => asked

/-- A plan is read as an operand that denotes it. -/
theorem operand_writes :
    ∀ plan : Plan, Needed setting.roots plan →
      Writes setting call (fun _ => True) (operand setting.config plan) fun found built =>
        built.Denotes plan found
  | .mk name kind, needed => by
    have inner := lowerKind_writes name kind needed
    unfold operand
    -- Literals and texts can stand for themselves, and null gets a variable where it is read.
    cases kind with
    | primitive value =>
      cases found : value.constant? with
      | some constant =>
        simp only [found]
        exact boundOperand_writes (.mk name (.primitive value))
          (.pure fun _ _ => .constant found)
      | none =>
        simp only [found]
        refine boundOperand_writes (.mk name (.primitive value)) ?_
        exact .bind (.leaf needed fun loads ran => literalLeaf_ok loads rfl ran) fun _ =>
          .pure fun _ holds => .var holds.2
    | text value =>
      exact boundOperand_writes (.mk name (.text value))
        (.pure fun _ _ => .constant rfl)
    | actions _ | reflection _ | testCall _ | mock _ | unknown _ =>
      exact boundOperand_writes (.mk name _) (onceOperand_writes (.mk name _) inner)
termination_by structural plan => plan

/-- Plans are read one after the other. -/
theorem operands_writes :
    ∀ plans : List Plan, (∀ plan ∈ plans, Needed setting.roots plan) →
      Writes setting call (fun _ => True) (operands setting.config plans) fun found built =>
        built.DenoteAll plans found
  | [], _ => .pure fun _ _ => .nil
  | plan :: rest, needed =>
    .bind (operand_writes plan (needed plan (.head _))) fun _ =>
      .bind (operands_writes rest fun _ member => needed _ (.tail _ member)).anytime fun _ =>
        .pure fun _ holds => .cons holds.1.2 holds.2
termination_by structural plans => plans

/-- The plan of a receiver is read if there is one. -/
theorem receiverOperand_writes :
    ∀ receiver : Option Plan, (∀ plan ∈ receiver.toList, Needed setting.roots plan) →
      Writes setting call (fun _ => True) (receiverOperand setting.config receiver)
        fun found built => built.DenoteAll receiver.toList found.toList
  | none, _ => .pure fun _ _ => .nil
  | some plan, needed => someOperand_writes (operand_writes plan (needed plan (by simp)))
termination_by structural receiver => receiver

/-- Elements of an array are stored one after the other. -/
theorem storeElements_writes (plan : Plan) {type : ValueType} {all : List Plan}
    (has : setting.HasAction plan (.newArrayWithInitializer type all)) (array : Var) :
    ∀ (elements : List Plan) (place : Nat), all.drop place = elements →
      Writes setting call (fun built => built.bindings.get? plan.name = some array)
        (storeElements setting.config array place elements) fun _ _ => True
  | [], _, _ => .pure fun _ _ => trivial
  | element :: rest, place, left => by
    -- What is left to store begins with the element at the place reached.
    have first : all[place]? = some element := by
      rw [← Nat.add_zero place, ← List.getElem?_drop, left]
      rfl
    refine .bind (operand_writes element (has.needed (List.mem_of_getElem? first))).anytime
      fun operand => ?_
    refine .bind (.emit _ rfl fun holds there =>
      .direct has there (.initialElement holds.1 first holds.2)) fun _ => ?_
    have others : all.drop (place + 1) = rest := by rw [← List.tail_drop, left, List.tail_cons]
    exact (storeElements_writes plan has array rest (place + 1) others).weaken
      (fun _ holds => holds.1.1) fun _ _ _ => id
termination_by structural elements => elements

end

/-! ### Whole tests -/

/-- Roots of a test write their statements, one root after the other. -/
theorem forM_compile_writes :
    ∀ plans : List Plan, (∀ plan ∈ plans, Needed setting.roots plan) →
      Writes setting call (fun _ => True) (plans.forM (compile setting.config)) fun _ _ => True
  | [], _ => .pure fun _ _ => trivial
  | .mk name kind :: rest, needed =>
    .bind (.once (lowerKind_writes name kind (needed _ (.head _)))) fun _ =>
      (forM_compile_writes rest fun _ member => needed _ (.tail _ member)).anytime

/-- In a test that is compiled all is sound. -/
theorem compileTest_sound {sharing : Sharing} {config : CompilerConfig} {method : MethodReference}
    {parameters : Parameters} {loader : ρ} {test : CompiledTest} {after : Compilation ρ}
    (compiled : compileTest sharing config method parameters { loader } = .ok test after) :
    test = after.compiled ∧
      Sound ⟨config, loader, parameters.roots⟩ (parameters.testCall method) after := by
  obtain ⟨rfl, prepared, prepares, calls⟩ := compileTest_ok compiled
  -- The roots are compiled from the beginning, and the call is appended to what they leave.
  have roots : Writes ⟨config, loader, parameters.roots⟩ (parameters.testCall method)
      (fun _ => True) (compileParameters config parameters) fun _ _ => True :=
    forM_compile_writes parameters.roots fun _ => .root
  have call : Writes ⟨config, loader, parameters.roots⟩ (parameters.testCall method)
      (fun _ => True) (compileTestCall config (parameters.testCall method)) fun _ _ => True :=
    lowerTestCall_writes _ (.inl rfl) fun _ member => .root (List.mem_append_left _ member)
  have sound := (roots.written (.initial _) (fun _ _ => trivial) prepares).sound
  exact ⟨rfl, (call.written sound (fun _ _ => trivial) calls).sound⟩

end Lower

end TestPlan
