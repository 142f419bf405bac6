import TestPlan.Lowering.Compile
import TestPlan.Proofs.Lowering.Leaves
import TestPlan.Proofs.Lowering.Steps

/-! Every plan that is compiled appends what its steps prescribe, whatever it reads. -/

namespace TestPlan.Lower

variable {ρ : Type} [ClassLoading ρ] {setting : Setting ρ}

/-! ### Reading one plan -/

section Operand

variable {plan : Plan} (needed : Needed setting.roots plan)

/-- A plan with a variable is read from it, and a constant without one is read as it is. -/
theorem constantOperand_reading {value : Constant} (constant : plan.constant? = some value) :
    Reading .nothing
      (do
        match (← get).bindings.get? plan.name with
        | some var => return .var var
        | none => return .constant value : Lowering ρ Operand)
      (.read needed) := by
  -- Reading a constant never compiles anything.
  refine .still fun {session found after} ran => ?_
  rw [get_bind] at ran
  cases bound : session.bindings.get? plan.name with
  | some var =>
    rw [bound] at ran
    cases ran
    exact ⟨rfl, fun _ => .var bound⟩
  | none =>
    rw [bound] at ran
    cases ran
    exact ⟨rfl, fun _ => .constant constant bound⟩

/-- A plan with a variable is read from it, and another one gets its variable first. -/
theorem boundOperand_reading {first : Lowering ρ Operand}
    (reading : Reading .nothing first (.read needed)) :
    Reading .nothing
      (do
        match (← get).bindings.get? plan.name with
        | some var => return .var var
        | none => first)
      (.read needed) where
  running {session _ _} ran active := by
    rw [get_bind] at ran
    cases bound : session.bindings.get? plan.name with
    | some var =>
      rw [bound] at ran
      cases ran
      exact active
    | none =>
      rw [bound] at ran
      exact reading.running ran active
  grows {session origins _ _} traced _ ran active := by
    rw [get_bind] at ran
    cases bound : session.bindings.get? plan.name with
    | some var =>
      rw [bound] at ran
      cases ran
      exact ⟨origins, .refl traced, .var bound⟩
    | none =>
      rw [bound] at ran
      -- Only a plan without a variable is still to be read.
      exact reading.grows traced trivial ran active

/-- A plan that is made of steps is compiled, and must have a variable then. -/
theorem onceOperand_reading (steps : plan.isLeaf = false) (consistent : setting.Consistent)
    {lower : Lowering ρ Unit} (completing : Completing setting plan lower) :
    Reading .nothing
      (do
        once setting.config plan.name lower
        match (← get).bindings.get? plan.name with
        | some var => return .var var
        | none => throw (.noValue plan.name))
      (.read needed) := by
  -- Compiling the plan is a reading, since what it adds is not of the step that reads it.
  refine .bind (.once needed steps consistent completing) fun _ => ?_
  refine .still fun {session found after} ran => ?_
  rw [get_bind] at ran
  cases bound : session.bindings.get? plan.name with
  | some var =>
    rw [bound] at ran
    cases ran
    exact ⟨rfl, fun _ => .var bound⟩
  | none =>
    rw [bound] at ran
    cases ran

omit needed in
/-- A plan may be read where none need be. -/
theorem someOperand_reading {needed : Needed setting.roots plan}
    {all : ∀ read ∈ [plan], Needed setting.roots read} {step : Lowering ρ Operand}
    (reading : Reading .nothing step (.read needed)) :
    Reading .nothing (some <$> step) fun found => .readAll all found.toList := by
  rw [← bind_pure_comp]
  exact .bind reading fun _ => .pure fun _ holds => .cons holds.2 .nil

/-- A null without a variable gets one. -/
theorem nullOperand_reading (consistent : setting.Consistent) {value : Literal}
    (kind : plan.kind = .primitive value) (null : value.constant? = none) :
    Reading .nothing (do return .var (← literalLeaf plan.name value)) (.read needed) :=
  .bind (.nullLeaf needed consistent kind null) fun _ => .pure fun _ holds => holds.2

end Operand

/-! ### All kinds of plans -/

mutual

/-- A plan that is made of steps is completed. -/
theorem lowerKind_completing (consistent : setting.Consistent) (owner : String) :
    ∀ kind : PlanKind, (∀ read ∈ kind.reads, Needed setting.roots read) →
      (Plan.mk owner kind).isLeaf = false →
        Completing setting (.mk owner kind) (lowerKind setting.config owner kind)
  | .actions steps, needed, _ =>
    .of_carrying rfl rfl (fun there prescribed => ⟨_, there, prescribed⟩) rfl
      (lowerActions_carrying consistent owner steps 0 needed)
  | .reflection steps, needed, _ =>
    .of_carrying rfl rfl (fun there prescribed => ⟨_, there, prescribed⟩) rfl
      (lowerReflectiveActions_carrying consistent owner steps 0 needed)
  | .testCall (.mk _ _ _), _, _ => .never fun ran => by
    -- A test call inside a plan completes the test, after which nothing is asked for.
    obtain ⟨_, _, _, ⟨⟩⟩ := bind_eq_ok_iff.mp ran
    rfl
  | .mock _, _, _ => .never nofun
  | .unknown _, _, _ => .never nofun

/-- Direct steps are carried out in order. -/
theorem lowerActions_carrying (consistent : setting.Consistent) (owner : String) :
    ∀ (steps : List Action) (base : Nat),
      (∀ read ∈ steps.flatMap Action.reads, Needed setting.roots read) →
        Carrying setting owner (fun step later => setting.Prescribes later owner step)
          Action.reads base steps (lowerActions setting.config owner steps)
  | [], _, _ => .nil
  | step :: rest, base, needed =>
    .cons (lowerAction_fulfilling consistent owner step base fun read member =>
        needed read (List.mem_flatMap.mpr ⟨step, List.mem_cons_self, member⟩))
      (lowerActions_carrying consistent owner rest (base + 1) fun read member =>
        needed read (by
          rw [List.flatMap_cons]
          exact List.mem_append_right _ member))

/-- Reflective steps are carried out in order. -/
theorem lowerReflectiveActions_carrying (consistent : setting.Consistent) (owner : String) :
    ∀ (steps : List ReflectiveAction) (base : Nat),
      (∀ read ∈ steps.flatMap ReflectiveAction.operands, Needed setting.roots read) →
        Carrying setting owner (fun step later => setting.PrescribesReflective later owner step)
          ReflectiveAction.operands base steps
          (lowerReflectiveActions setting.config owner steps)
  | [], _, _ => .nil
  | step :: rest, base, needed =>
    .cons (lowerReflectiveAction_fulfilling consistent owner step base fun read member =>
        needed read (List.mem_flatMap.mpr ⟨step, List.mem_cons_self, member⟩))
      (lowerReflectiveActions_carrying consistent owner rest (base + 1) fun read member =>
        needed read (by
          rw [List.flatMap_cons]
          exact List.mem_append_right _ member))

/-- A direct step appends what it prescribes. -/
theorem lowerAction_fulfilling (consistent : setting.Consistent) (owner : String) :
    ∀ (step : Action) (index : Nat), (∀ read ∈ step.reads, Needed setting.roots read) →
      Fulfilling owner index (fun later => setting.Prescribes later owner step) step.reads
        (.nothing : Fact setting) (lowerAction setting.config owner step)
  | .arrayWrite _ value, _, needed => by
    refine .read (.ownerVar owner) fun array => ?_
    refine .read (.ofExcept _) fun place => ?_
    -- The array and the place are known before the value is read.
    have reading := operand_reading consistent value (needed value (.head _))
    refine .read reading.anytime fun operand => ?_
    refine Fulfilling.emit rfl (fun goesOn there => ?_) fun holds => served_one holds.2
    obtain ⟨⟨⟨_, bound⟩, placed⟩, reads⟩ := goesOn.holds
    exact .one (.arrayWrite (bound _ goesOn.kept) placed (goesOn.standsFor reads)) there
  | .constructorCall _ args, _, needed =>
    invokeGiven_fulfilling none (by rintro _ ⟨⟩; rfl) (operands_reading consistent args needed)
      fun _ stands calls => .constructorCall stands calls
  | .externalConstructorCall _ args, _, needed =>
    invokeGiven_fulfilling none (by rintro _ ⟨⟩; rfl) (operands_reading consistent args needed)
      fun _ stands calls => .externalConstructorCall stands calls
  | .innerClassConstructorCall _ _ _, _, _ => ⟨nofun, nofun⟩
  | .defaultConstructorCall className, _, _ => createDefault_fulfilling className
  | .enumValueCreation className name, _, _ => enumValue_fulfilling className name
  | .methodCall _ args, _, needed =>
    .read (.ownerVar owner) fun receiver =>
      invokeGiven_fulfilling (some (.var receiver)) nofun (operands_reading consistent args needed)
        fun goesOn stands calls => .methodCall (goesOn.holds.2 _ goesOn.kept) stands calls
  | .externalMethodCall method receiver args, _, needed => by
    unfold lowerAction
    by_cases isConstructor : method.isConstructor = true
    · -- A constructor does not read the receiver.
      rw [invoke_of_isConstructor isConstructor]
      simp only [Action.reads, isConstructor, if_true] at needed ⊢
      refine invokeGiven_fulfilling none (by rintro _ ⟨⟩; rfl)
        (operands_reading consistent args needed) fun _ stands calls => ?_
      exact .externalMethodCall (by simp [isConstructor]) stands calls
    · simp only [Action.reads, isConstructor] at needed ⊢
      refine invoke_fulfilling (by rintro _ ⟨⟩; rfl)
        (receiverOperand_reading consistent receiver fun read member =>
          needed read (List.mem_append_left _ member))
        (operands_reading consistent args fun read member =>
          needed read (List.mem_append_right _ member))
        (fun goesOn received reads calls there => ?_) fun received reads => ?_
      · exact .one (.externalMethodCall (fun isMethod => goesOn.standForAll (received isMethod))
          (goesOn.standForAll reads) calls) there
      · -- A method reads its receiver as well as its arguments.
        have received := received (by simpa using isConstructor)
        intro read member
        rcases List.mem_append.mp member with object | given
        · exact CompiledTest.served_of_forall₂ received read object
        · exact CompiledTest.served_of_forall₂ reads read given
  | .staticMethodCall _ args, _, needed =>
    invokeGiven_fulfilling none nofun (operands_reading consistent args needed)
      fun _ stands calls => .staticMethodCall stands calls
  | .fieldGetter receiver _, _, needed =>
    readField_fulfilling needed
      (someOperand_reading (operand_reading consistent receiver (needed _ (.head _))))
      fun {_ _ _ _ object _} finds typed stands owns => by
        cases object with
        | none => cases stands
        | some object =>
          obtain _ | ⟨stands, _⟩ := stands
          exact .fieldGetter finds typed stands owns
  | .staticFieldGetter _, _, needed =>
    readField_fulfilling needed (.pure fun _ _ => .nil)
      fun {_ _ _ _ object _} finds typed stands owns => by
        cases object with
        | none => exact .staticFieldGetter finds typed owns
        | some object => cases stands
  | .fieldSetter _ value, _, needed =>
    .read (.ownerVar owner) fun _ =>
      writeField_fulfilling (operand_reading consistent value (needed _ (.head _)))
        fun goesOn finds stands => .fieldSetter finds (goesOn.holds.2 _ goesOn.kept) stands
  | .staticFieldSetter _ value, _, needed =>
    writeField_fulfilling (operand_reading consistent value (needed _ (.head _)))
      fun _ finds stands => .staticFieldSetter finds stands
  | .newArray type length, _, _ => newArray_fulfilling type length
  | .newArrayWithInitializer type elements, index, needed => by
    refine .read (arrayType_reading owner type) fun found => ?_
    refine Fulfilling.defineThen (fun array position later =>
        later.At position (.newArray elements.length array) ∧ later.Owns owner found array)
      (fun _ => rfl) (fun _ there owns => ⟨there, owns⟩) fun array position => ?_
    -- The array is there from then on, and each element is stored into it.
    have stores := storeElements_fulfilling consistent owner index array elements 0 needed
    refine Fulfilling.conclude (stores.weaken fun _ => trivial) fun holds kept stored => ?_
    obtain ⟨⟨_, finds, isArray⟩, made⟩ := holds
    obtain ⟨there, owns⟩ := made _ kept
    exact .initializer finds isArray owns there stored
  | .classConstantGetter type, _, _ => classConstant_fulfilling type
  | .arrayClassConstantGetter elementType, _, needed =>
    arrayClassConstant_fulfilling
      (operand_reading consistent elementType (needed _ (.head _)))

/-- A reflective step appends what it prescribes. -/
theorem lowerReflectiveAction_fulfilling (consistent : setting.Consistent) (owner : String) :
    ∀ (step : ReflectiveAction) (index : Nat),
      (∀ read ∈ step.operands, Needed setting.roots read) →
        Fulfilling owner index (fun later => setting.PrescribesReflective later owner step)
          step.operands (.nothing : Fact setting) (lowerReflectiveAction setting.config owner step)
  | .newInstance type, _, _ => createUninitialized_fulfilling type
  | .newArray type length, _, needed =>
    createArray_fulfilling type (operand_reading consistent length (needed _ (.head _)))
  | .arrayWrite index value, _, needed =>
    .read (.ownerVar owner) fun _ => setElement_fulfilling (fun holds => holds.2)
      (operand_reading consistent index (needed _ (.head _)))
      (operand_reading consistent value (needed _ (.tail _ (.head _))))
  | .arrayRead array index elementType, _, needed =>
    getElement_fulfilling elementType
      (operand_reading consistent array (needed _ (.head _)))
      (operand_reading consistent index (needed _ (.tail _ (.head _))))
  | .setField _ value, _, needed =>
    .read (.ownerVar owner) fun _ => setField_fulfilling (fun holds => holds.2)
      (operand_reading consistent value (needed _ (.head _)))
  | .setStaticField _ value, _, needed =>
    setStaticField_fulfilling (operand_reading consistent value (needed _ (.head _)))
  | .getField receiver _, _, needed =>
    .read (operand_reading consistent receiver (needed _ (.head _)))
      fun _ => getField_fulfilling fun holds => holds.2
  | .getStaticField _, _, _ => getStaticField_fulfilling

/-- A plan is read as the operand that stands for it. -/
theorem operand_reading (consistent : setting.Consistent) :
    ∀ (plan : Plan) (needed : Needed setting.roots plan),
      Reading .nothing (operand setting.config plan) (.read needed)
  | .mk name kind, needed => by
    -- The plan is completed only if it is neither a literal nor a text.
    have inner := lowerKind_completing consistent name kind fun read member => needed.read member
    unfold operand
    cases kind with
    | primitive value =>
      cases found : value.constant? with
      | some constant =>
        simp only [found]
        exact constantOperand_reading needed found
      | none =>
        simp only [found]
        exact boundOperand_reading needed (nullOperand_reading needed consistent rfl found)
    | text value => exact constantOperand_reading needed rfl
    | actions _ | reflection _ | testCall _ | mock _ | unknown _ =>
      exact boundOperand_reading needed (onceOperand_reading needed rfl consistent (inner rfl))

/-- Plans are read one after the other. -/
theorem operands_reading (consistent : setting.Consistent) :
    ∀ (plans : List Plan) (needed : ∀ plan ∈ plans, Needed setting.roots plan),
      Reading .nothing (operands setting.config plans) (.readAll needed)
  | [], _ => .pure fun _ _ => .nil
  | plan :: rest, needed => by
    -- Reading the other plans leaves what has been read of the first one.
    refine .bind (operand_reading consistent plan (needed plan (.head _))) fun first => ?_
    have reading := operands_reading consistent rest fun read member =>
      needed read (List.mem_cons_of_mem _ member)
    refine .bind reading.anytime fun others => ?_
    exact .pure fun _ holds => .cons holds.1.2 holds.2

/-- The plan of a receiver is read if there is one. -/
theorem receiverOperand_reading (consistent : setting.Consistent) :
    ∀ (receiver : Option Plan) (needed : ∀ plan ∈ receiver.toList, Needed setting.roots plan),
      Reading .nothing (receiverOperand setting.config receiver)
        fun found => .readAll needed found.toList
  | none, _ => .pure fun _ _ => .nil
  | some plan, needed => by
    refine someOperand_reading (operand_reading consistent plan (needed plan (by simp)))

/-- Elements are stored one after the other. -/
theorem storeElements_fulfilling (consistent : setting.Consistent) (owner : String) (index : Nat)
    (array : Var) :
    ∀ (plans : List Plan) (place : Nat), (∀ plan ∈ plans, Needed setting.roots plan) →
      Fulfilling owner index (fun later => Setting.Stores later array place plans) plans
        (.nothing : Fact setting) (storeElements setting.config array place plans)
  | [], _, _ => .done (fun _ _ => .nil) fun _ => nofun
  | plan :: rest, place, needed => by
    refine .read (operand_reading consistent plan (needed plan (.head _))) fun operand => ?_
    refine Fulfilling.serve (fun holds => holds.2.served) ?_
    refine Fulfilling.emitThen (fun position later => later.StandsFor position plan operand ∧
        later.At position (.assignment (.element array place) operand)) rfl
      (fun goesOn there => ⟨goesOn.standsFor goesOn.holds.2, there⟩) fun position => ?_
    have stores := storeElements_fulfilling consistent owner index array rest (place + 1)
      fun read member => needed read (List.mem_cons_of_mem _ member)
    refine Fulfilling.conclude (stores.weaken fun _ => trivial) fun holds kept stored => ?_
    -- The store of the first element stays in front of the others.
    obtain ⟨stands, there⟩ := holds.2 _ kept
    exact .cons stands there stored

end

end TestPlan.Lower
