import TestPlan.Lowering.Compile
import TestPlan.Proofs.Lowering.Rules

/-! What compiling a plan ensures, and which plans are to blame when it fails. -/

namespace TestPlan

/-- A plan at some depth of another one, with the names of the plans around it from the inside. -/
inductive Plan.Inside (plan : Plan) : List String → Plan → Prop
  | self : Inside plan [] plan
  | operand {path : List String} {consumer operand : Plan} : Inside plan path consumer →
      operand ∈ consumer.operands → Inside plan (consumer.name :: path) operand

/-- What is inside an operand is inside its consumer. -/
theorem Plan.Inside.under {plan operand inner : Plan} {path : List String}
    (inside : operand.Inside path inner) (member : operand ∈ plan.operands) :
    plan.Inside (path ++ [plan.name]) inner := by
  -- The induction is on the way down, which the plan only makes longer at its outer end.
  induction inside with
  | self => exact .operand .self member
  | operand _ inner ih => exact .operand ih inner

/--
Which failures the plans to compile can be blamed for, inside the plans that are active.

A plan is met while it is being compiled only if it is inside itself or an active plan. The limit
is exceeded only by plans that deep.
-/
def Blamed (config : CompilerConfig) (active : List String) (plans : List Plan) :
    CompileError → Prop
  | .cyclicPlan name => ∃ plan ∈ plans, ∃ path inner, plan.Inside path inner ∧
      inner.name = name ∧ name ∈ path ++ active
  | .depthExceeded limit => (∃ bound, config.maxDepth = some bound ∧ bound.toNat = limit) ∧
      ∃ plan ∈ plans, ∃ path inner, plan.Inside path inner ∧ limit ≤ (path ++ active).length
  | .testCase error => error.ofElement = true
  | _ => True

namespace Blamed

variable {config : CompilerConfig} {active : List String} {error : CompileError}

/-- Any plans may be blamed for an ordinary failure. -/
theorem of_ordinary {plans : List Plan} (ordinary : error.Ordinary) :
    Blamed config active plans error := by
  cases error <;> trivial

/-- More plans can be blamed for more. -/
theorem mono {plans more : List Plan} (subset : plans ⊆ more)
    (blamed : Blamed config active plans error) : Blamed config active more error := by
  cases error with
  | cyclicPlan name =>
    obtain ⟨plan, member, found⟩ := blamed
    exact ⟨plan, subset member, found⟩
  | depthExceeded limit =>
    obtain ⟨limited, plan, member, found⟩ := blamed
    exact ⟨limited, plan, subset member, found⟩
  -- No other failure says anything about the plans.
  | _ => exact blamed

/-- What operands are blamed for inside a plan, the plan is blamed for. -/
theorem under {name : String} {kind : PlanKind}
    (blamed : Blamed config (name :: active) kind.operands error) :
    Blamed config active [.mk name kind] error := by
  cases error with
  | cyclicPlan cyclic =>
    -- The name of the plan moves from the active plans to the end of the path.
    obtain ⟨operand, member, path, inner, inside, named, around⟩ := blamed
    exact ⟨.mk name kind, by simp, path ++ [name], inner, inside.under member, named,
      by simpa using around⟩
  | depthExceeded limit =>
    obtain ⟨limited, operand, member, path, inner, inside, deep⟩ := blamed
    exact ⟨limited, .mk name kind, by simp, path ++ [name], inner, inside.under member,
      by simpa using deep⟩
  | _ => exact blamed

end Blamed

namespace Lower

variable {ρ α : Type} [ClassLoading ρ] {config : CompilerConfig} {session : Compilation ρ}

/-- A step that plans are blamed for supplies operands at any later time. -/
theorem supplies {plans more : List Plan} {step : Lowering ρ α} {read : α → List Operand}
    (each : ∀ later : Compilation ρ, Ensures (Blamed config later.active plans) step later
      fun found after => after.Knows (read found)) (subset : plans ⊆ more) :
    Supplies (Blamed config session.active more) step read session := by
  intro later moves
  have ensured := each later
  -- Moves leave the active plans as they were.
  rw [moves.keeps.active] at ensured
  exact ensured.mono (fun _ => Blamed.mono subset) fun _ _ => id

/-- A step inside a plan ensures there what it ensures outside. -/
theorem within_ensures {fail : CompileError → Prop} {name : String} {body : Lowering ρ Unit}
    (inner : Ensures fail body (session.enter name) fun _ _ => True) :
    Ensures fail (within name body) session fun _ _ => True := by
  intro orderly
  have inner := inner { orderly with }
  unfold within
  revert inner
  -- The plan is left in both cases, also after a failure.
  cases body (session.enter name) with
  | ok _ after => exact fun ⟨moves, _⟩ => ⟨.within moves, trivial⟩
  | error error after => exact fun ⟨moves, failed⟩ => ⟨.within moves, failed⟩

/-- A plan that is met again or too deep is to blame for it. -/
theorem checkNesting_ensures (name : String) (kind : PlanKind) :
    Ensures (Blamed config session.active [.mk name kind]) (checkNesting config name) session
      fun _ _ => True := by
  refine .get_bind ?_
  dsimp only
  split
  · rename_i around
    -- The name is among the active plans, which is where the plan is met again.
    exact .throw_bind ⟨.mk name kind, by simp, [], _, .self, rfl, by simpa using around⟩
  · -- Only a configured limit can still refuse the plan.
    cases limited : config.maxDepth with
    | none => exact .pure trivial
    | some limit =>
      dsimp only
      split
      · rename_i deep
        exact .throw ⟨⟨limit, limited, rfl⟩, .mk name kind, by simp, [], _, .self, deep⟩
      · exact .pure trivial

/-- Compiling a plan is blamed on it if its body is blamed on its operands. -/
theorem once_ensures {name : String} {kind : PlanKind} {body : Lowering ρ Unit}
    (inner : ∀ inside : Compilation ρ,
      Ensures (Blamed config inside.active kind.operands) body inside fun _ _ => True) :
    Ensures (Blamed config session.active [.mk name kind]) (once config name body) session
      fun _ _ => True := by
  refine .get_bind ?_
  split
  · exact .pure trivial
  -- The body runs inside the plan, so it is blamed on operands one level deeper.
  refine .bind (checkNesting_ensures name kind) fun _ admitted more _ => ?_
  rw [← more.keeps.active]
  refine .bind (within_ensures ?_) fun _ _ _ _ => .change .record trivial
  exact (inner (admitted.enter name)).mono (fun _ => Blamed.under) fun _ _ => id

/-- A length or index that is no literal is an ordinary failure. -/
theorem literalIndex_ordinary {plan : Plan} {error : CompileError}
    (failed : literalIndex plan = .error error) : error.Ordinary := by
  -- Either way it is only said that the plan is no literal index.
  unfold literalIndex at failed
  split at failed
  · split at failed <;> cases failed
    trivial
  · cases failed
    trivial

/-- A literal that is compiled gets a value. -/
theorem literalLeaf_ensures {fail : CompileError → Prop}
    (ordinary : ∀ error, CompileError.Ordinary error → fail error) (owner : String)
    (value : Literal) :
    Ensures fail (literalLeaf owner value) session fun var after => after.Holds var := by
  unfold literalLeaf
  -- A null is looked up by its type first, and a constant is not.
  split
  · exact define_ensures ordinary (fun _ => rfl) fun _ => Compilation.knows_nil
  · refine .bind (resolve_ensures ordinary (Resolve.typeNamed_plain _)) fun _ _ _ _ => ?_
    exact define_ensures ordinary (fun _ => rfl) fun _ => Compilation.knows_nil

/-- A text that is compiled gets a value. -/
theorem textLeaf_ensures {fail : CompileError → Prop}
    (ordinary : ∀ error, CompileError.Ordinary error → fail error) (owner text : String) :
    Ensures fail (textLeaf owner text) session fun var after => after.Holds var := by
  refine .bind (resolve_ensures ordinary (Resolve.typeNamed_plain _)) fun _ _ _ _ => ?_
  exact define_ensures ordinary (fun _ => rfl) fun _ => Compilation.knows_nil

/-- An operand that is known may be given where one is optional. -/
theorem some_ensures {fail : CompileError → Prop} {step : Lowering ρ Operand}
    (ensured : Ensures fail step session fun found after => after.Knows [found]) :
    Ensures fail (some <$> step) session fun found after => after.Knows found.toList := by
  rw [← bind_pure_comp]
  exact ensured.bind fun _ _ _ known => .pure known

/-! ### All kinds of plans -/

mutual

/-- A plan that produces a value is blamed for what its operands are blamed for. -/
theorem lowerKind_ensures (config : CompilerConfig) (owner : String) :
    ∀ (kind : PlanKind) (session : Compilation ρ),
      Ensures (Blamed config session.active kind.operands) (lowerKind config owner kind) session
        fun _ _ => True
  | .actions steps, session => lowerActions_ensures config owner steps session
  | .reflection steps, session => lowerReflectiveActions_ensures config owner steps session
  | .testCall call, session => lowerTestCall_ensures config call session
  | .primitive value, _ =>
    .bind (literalLeaf_ensures (fun _ => .of_ordinary) owner value) fun _ _ _ _ => .pure trivial
  | .text value, _ =>
    .bind (textLeaf_ensures (fun _ => .of_ordinary) owner value) fun _ _ _ _ => .pure trivial
  | .mock _, _ => .throw trivial
  | .unknown _, _ => .throw trivial

/-- Direct steps are blamed for what their operands are blamed for. -/
theorem lowerActions_ensures (config : CompilerConfig) (owner : String) :
    ∀ (steps : List Action) (session : Compilation ρ),
      Ensures (Blamed config session.active (steps.flatMap Action.operands))
        (lowerActions config owner steps) session fun _ _ => True
  | [], session => .pure trivial
  | step :: rest, session => by
    -- What the first step does leaves the active plans, so the rest is blamed in the same terms.
    refine .bind ((lowerAction_ensures config owner step session).mono
      (fun _ => .mono (by simp)) fun _ _ => id) fun _ later moves _ => ?_
    rw [← moves.keeps.active]
    exact (lowerActions_ensures config owner rest later).mono (fun _ => .mono (by simp))
      fun _ _ => id

/-- Reflective steps are blamed for what their operands are blamed for. -/
theorem lowerReflectiveActions_ensures (config : CompilerConfig) (owner : String) :
    ∀ (steps : List ReflectiveAction) (session : Compilation ρ),
      Ensures (Blamed config session.active (steps.flatMap ReflectiveAction.operands))
        (lowerReflectiveActions config owner steps) session fun _ _ => True
  | [], session => .pure trivial
  | step :: rest, session => by
    refine .bind ((lowerReflectiveAction_ensures config owner step session).mono
      (fun _ => .mono (by simp)) fun _ _ => id) fun _ later moves _ => ?_
    rw [← moves.keeps.active]
    exact (lowerReflectiveActions_ensures config owner rest later).mono (fun _ => .mono (by simp))
      fun _ _ => id

/-- A direct step is blamed for what its operands are blamed for. -/
theorem lowerAction_ensures (config : CompilerConfig) (owner : String) :
    ∀ (step : Action) (session : Compilation ρ),
      Ensures (Blamed config session.active step.operands) (lowerAction config owner step) session
        fun _ _ => True
  | .arrayWrite index value, session => by
    refine .bind (ownerVar_ensures (fun _ => .of_ordinary) owner) fun array _ first held => ?_
    refine .bind (ofExcept_ensures fun _ failed => .of_ordinary (literalIndex_ordinary failed))
      fun index _ second _ => ?_
    refine .bind (supplies (operand_ensures config value) (by simp [Action.operands]) _
      (first.trans second)) fun value _ third known => ?_
    have held := (second.trans third).keeps.holds held
    exact emit_ensures (fun _ => .of_ordinary) rfl (Compilation.uses_element.mpr ⟨held, known⟩)
  | .constructorCall constructor args, session
  | .externalConstructorCall constructor args, session =>
    invoke_ensures (fun _ => .of_ordinary) constructor (some owner) .nothing
      (supplies (operands_ensures config args) (by simp [Action.operands]))
  | .innerClassConstructorCall _ _ _, session => .throw trivial
  | .defaultConstructorCall className, session =>
    createDefault_ensures (fun _ => .of_ordinary) owner className
  | .enumValueCreation className name, session =>
    enumValue_ensures (fun _ => .of_ordinary) owner className name
  | .methodCall method args, session => by
    refine .bind (ownerVar_ensures (fun _ => .of_ordinary) owner) fun receiver _ moves held => ?_
    -- The receiver is the plan itself, whose variable is not lost while arguments are read.
    refine invoke_ensures (fun _ => .of_ordinary) method none ?_
      ((supplies (operands_ensures config args) (by simp [Action.operands])).later moves)
    exact fun _ more => .pure (by simpa using more.keeps.holds held)
  | .externalMethodCall method receiver args, session =>
    invoke_ensures (fun _ => .of_ordinary) method (some owner)
      (supplies (receiverOperand_ensures config receiver) (by simp [Action.operands]))
      (supplies (operands_ensures config args) (by simp [Action.operands]))
  | .staticMethodCall method args, session =>
    invoke_ensures (fun _ => .of_ordinary) method none .nothing
      (supplies (operands_ensures config args) (by simp [Action.operands]))
  | .fieldGetter receiver field, session =>
    readField_ensures (fun _ => .of_ordinary) owner field
      (supplies (fun later => some_ensures (operand_ensures config receiver later))
        (by simp [Action.operands]))
  | .staticFieldGetter field, session =>
    readField_ensures (fun _ => .of_ordinary) owner field .nothing
  | .fieldSetter field value, session => by
    refine .bind (ownerVar_ensures (fun _ => .of_ordinary) owner) fun receiver _ moves held => ?_
    exact writeField_ensures (fun _ => .of_ordinary) field (by rintro _ ⟨⟩; exact held)
      ((supplies (operand_ensures config value) (by simp [Action.operands])).later moves)
  | .staticFieldSetter field value, session =>
    writeField_ensures (fun _ => .of_ordinary) field nofun
      (supplies (operand_ensures config value) (by simp [Action.operands]))
  | .newArray type length, session =>
    newArray_ensures (fun _ => .of_ordinary) owner type
      fun _ failed => .of_ordinary (literalIndex_ordinary failed)
  | .newArrayWithInitializer type elements, session => by
    refine .bind (arrayType_ensures (fun _ => .of_ordinary) owner type) fun type _ first _ => ?_
    refine .bind (define_ensures (fun _ => .of_ordinary) (fun _ => rfl)
      fun _ => Compilation.knows_nil) fun array last second held => ?_
    -- The elements are blamed inside the same active plans as the step.
    rw [← (first.trans second).keeps.active]
    exact storeElements_ensures config array 0 elements last held
  | .classConstantGetter type, session => classConstant_ensures (fun _ => .of_ordinary) owner type
  | .arrayClassConstantGetter elementType, session =>
    arrayClassConstant_ensures (fun _ => .of_ordinary) owner
      (supplies (operand_ensures config elementType) (by simp [Action.operands]))

/-- A reflective step is blamed for what its operands are blamed for. -/
theorem lowerReflectiveAction_ensures (config : CompilerConfig) (owner : String) :
    ∀ (step : ReflectiveAction) (session : Compilation ρ),
      Ensures (Blamed config session.active step.operands)
        (lowerReflectiveAction config owner step) session fun _ _ => True
  | .newInstance type, session =>
    createUninitialized_ensures (fun _ => .of_ordinary) config.helpers owner type
  | .newArray type length, session =>
    createArray_ensures (fun _ => .of_ordinary) config.helpers owner type
      (supplies (operand_ensures config length) (by simp [ReflectiveAction.operands]))
  | .arrayWrite index value, session => by
    refine .bind (ownerVar_ensures (fun _ => .of_ordinary) owner) fun array _ moves held => ?_
    exact setElement_ensures (fun _ => .of_ordinary) config.helpers held
      ((supplies (operand_ensures config index) (by simp [ReflectiveAction.operands])).later moves)
      ((supplies (operand_ensures config value) (by simp [ReflectiveAction.operands])).later moves)
  | .arrayRead array index elementType, session =>
    getElement_ensures (fun _ => .of_ordinary) config.helpers owner elementType
      (supplies (operand_ensures config array) (by simp [ReflectiveAction.operands]))
      (supplies (operand_ensures config index) (by simp [ReflectiveAction.operands]))
  | .setField field value, session => by
    refine .bind (ownerVar_ensures (fun _ => .of_ordinary) owner) fun receiver _ moves held => ?_
    exact setField_ensures (fun _ => .of_ordinary) config.helpers field (by simpa using held)
      ((supplies (operand_ensures config value) (by simp [ReflectiveAction.operands])).later moves)
  | .setStaticField field value, session =>
    setField_ensures (fun _ => .of_ordinary) config.helpers field Compilation.knows_nil
      (supplies (operand_ensures config value) (by simp [ReflectiveAction.operands]))
  | .getField receiver field, session => by
    refine .bind (supplies (operand_ensures config receiver) (by simp [ReflectiveAction.operands])
      _ (.refl session)) fun receiver _ _ known => ?_
    exact getField_ensures (fun _ => .of_ordinary) config.helpers owner field known
  | .getStaticField field, session =>
    getField_ensures (fun _ => .of_ordinary) config.helpers owner field Compilation.knows_nil

/-- The call under test is blamed for what its operands are blamed for. -/
theorem lowerTestCall_ensures (config : CompilerConfig) :
    ∀ (call : TestCall) (session : Compilation ρ),
      Ensures (Blamed config session.active call.operands) (lowerTestCall config call) session
        fun _ _ => True
  | .mk method receiver args, session => by
    refine .bind (invoke_ensures (fun _ => .of_ordinary) method none
      (supplies (receiverOperand_ensures config receiver) (by simp [TestCall.operands]))
      (supplies (operands_ensures config args) (by simp [TestCall.operands]))) fun _ _ _ _ => ?_
    exact .change .terminate trivial

/-- The value of a plan is known, unless the plan is blamed for a failure. -/
theorem operand_ensures (config : CompilerConfig) :
    ∀ (plan : Plan) (session : Compilation ρ),
      Ensures (Blamed config session.active [plan]) (operand config plan) session
        fun found after => after.Knows [found]
  | .mk name kind, session => by
    have inner := lowerKind_ensures config name kind
    -- What a compiled plan has become is looked up again, since it may produce nothing.
    have value : ∀ later : Compilation ρ, Ensures (Blamed config session.active [.mk name kind])
        (do
          match (← MonadState.get).bindings.get? name with
          | some var => return .var var
          | none => throw (.noValue name)) later fun found after => after.Knows [found] := by
      intro later
      refine .get_bind ?_
      cases bound : later.bindings.get? name with
      | some var => exact .pure (by simpa using ⟨name, Bindings.mem_of_get? bound⟩)
      | none => exact .throw trivial
    unfold operand
    refine .get_bind ?_
    split
    · rename_i var bound
      exact .pure (by simpa using ⟨name, Bindings.mem_of_get? bound⟩)
    · split
      · split
        · exact .pure (by simp)
        · refine .bind (literalLeaf_ensures (fun _ => .of_ordinary) name _) fun var _ _ held => ?_
          exact .pure (by simpa using held)
      · exact .pure (by simp)
      · exact .bind (once_ensures inner) fun _ later _ _ => value later

/-- The values of plans are known, unless one of them is blamed for a failure. -/
theorem operands_ensures (config : CompilerConfig) :
    ∀ (plans : List Plan) (session : Compilation ρ),
      Ensures (Blamed config session.active plans) (operands config plans) session
        fun found after => after.Knows found
  | [], session => .pure (by simp)
  | plan :: rest, session => by
    refine .bind (supplies (operand_ensures config plan) (by simp) _ (.refl session))
      fun first later moves known => ?_
    -- The first operand stays known while the others are read.
    refine .bind (supplies (operands_ensures config rest) (by simp) _ moves)
      fun others _ more known' => .pure ?_
    exact Compilation.knows_cons.mpr ⟨known.mono more.keeps, known'⟩

/-- The value of a receiver is known, unless its plan is blamed for a failure. -/
theorem receiverOperand_ensures (config : CompilerConfig) :
    ∀ (receiver : Option Plan) (session : Compilation ρ),
      Ensures (Blamed config session.active receiver.toList) (receiverOperand config receiver)
        session fun found after => after.Knows found.toList
  | none, session => .pure (by simp)
  | some plan, session => some_ensures (operand_ensures config plan session)

/-- Elements are stored, unless one of their plans is blamed for a failure. -/
theorem storeElements_ensures (config : CompilerConfig) (array : Var) :
    ∀ (position : Nat) (plans : List Plan) (session : Compilation ρ), session.Holds array →
      Ensures (Blamed config session.active plans) (storeElements config array position plans)
        session fun _ _ => True
  | _, [], session, _ => .pure trivial
  | position, plan :: rest, session, held => by
    refine .bind (supplies (operand_ensures config plan) (by simp) _ (.refl session))
      fun value _ first known => ?_
    -- The array goes on to hold a value whatever its elements need.
    have stored := first.keeps.holds held
    refine .bind (emit_ensures (fun _ => .of_ordinary) rfl
      (Compilation.uses_element.mpr ⟨stored, known⟩)) fun _ later second _ => ?_
    rw [← (first.trans second).keeps.active]
    exact (storeElements_ensures config array (position + 1) rest later
      (second.keeps.holds stored)).mono (fun _ => .mono (by simp)) fun _ _ => id

end

end Lower

end TestPlan
