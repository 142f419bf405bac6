import TestPlan.Proofs.Lowering.Composed

/-! How lowering a plan, and reading one, are composed of lowering its steps. -/

namespace TestPlan

variable {ρ : Type} [ClassLoading ρ]

/-- Two lowerings of steps, each composed of the same primitive steps as the other one. -/
inductive ComposedSteps (config config' : CompilerConfig) (owner : String) (reads : List Plan) :
    List Role → Lowering ρ Unit → Lowering ρ Unit → Prop
  | nil : ComposedSteps config config' owner reads [] (pure ()) (pure ())
  | cons {role : Role} {roles : List Role} {first first' rest rest' : Lowering ρ Unit} :
      Composed config config' owner reads role first first' →
      ComposedSteps config config' owner reads roles rest rest' →
      ComposedSteps config config' owner reads (role :: roles) (first >>= fun _ => rest)
        (first' >>= fun _ => rest')

/-- Two lowerings of a plan that is neither compiled nor read while it is lowered. -/
inductive ComposedPlan (config config' : CompilerConfig) (plan : Plan) :
    Lowering ρ Unit → Lowering ρ Unit → Prop
  | steps {roles : List Role} {lower lower' : Lowering ρ Unit} : plan.roles? = some roles →
      ComposedSteps config config' plan.name plan.kind.reads roles lower lower' →
      ComposedPlan config config' plan lower lower'
  | leaf {lower lower' : Lowering ρ Unit} : plan.isLeaf = true →
      Composed config config' plan.name [] .produces lower lower' →
      ComposedPlan config config' plan lower lower'
  | testCall {lower lower' : Lowering ρ Unit} : plan.isTestCall = true →
      Composed config config' plan.name plan.kind.reads .neither lower lower' →
      ComposedPlan config config' plan
        (lower >>= fun _ => modify fun session => { session with terminated := true })
        (lower' >>= fun _ => modify fun session => { session with terminated := true })
  | unsupported {error : CompileError} : ¬ error.OfName →
      ComposedPlan config config' plan (throw error) (throw error)

namespace Lower

variable {config config' : CompilerConfig}

/-- Direct steps are composed one after the other. -/
theorem lowerActions_composed (owner : String) (steps : List Action) {reads : List Plan}
    (inside : steps.flatMap Action.reads ⊆ reads) :
    ComposedSteps (ρ := ρ) config config' owner reads (steps.map Action.role)
      (lowerActions config owner steps) (lowerActions config' owner steps) := by
  induction steps with
  | nil => exact .nil
  | cons step rest ih =>
    rw [List.flatMap_cons, List.append_subset] at inside
    exact .cons ((lowerAction_composed step).mono inside.1) (ih inside.2)

/-- Reflective steps are composed one after the other. -/
theorem lowerReflectiveActions_composed (same : config.helpers = config'.helpers)
    (owner : String) (steps : List ReflectiveAction) {reads : List Plan}
    (inside : steps.flatMap ReflectiveAction.operands ⊆ reads) :
    ComposedSteps (ρ := ρ) config config' owner reads (steps.map ReflectiveAction.role)
      (lowerReflectiveActions config owner steps) (lowerReflectiveActions config' owner steps) := by
  induction steps with
  | nil => exact .nil
  | cons step rest ih =>
    rw [List.flatMap_cons, List.append_subset] at inside
    exact .cons ((lowerReflectiveAction_composed same step).mono inside.1) (ih inside.2)

/-- The call under test reads its operands. -/
theorem invokeTest_composed {owner : String} {reads : List Plan} (method : MethodReference)
    (receiver : Option Plan) (args : List Plan) (inside : receiver.toList ++ args ⊆ reads) :
    Composed (ρ := ρ) config config' owner reads .neither
      (invoke method (receiverOperand config receiver) (operands config args) none)
      (invoke method (receiverOperand config' receiver) (operands config' args) none) := by
  rw [List.append_subset] at inside
  exact invoke_composed none method nofun (fun _ => receiverOperand_composed inside.1)
    (operands_composed inside.2)

/-- A plan of any kind is composed of the same steps under both configurations. -/
theorem lowerKind_composed (same : config.helpers = config'.helpers) (plan : Plan) :
    ComposedPlan (ρ := ρ) config config' plan (lowerKind config plan.name plan.kind)
      (lowerKind config' plan.name plan.kind) := by
  obtain ⟨name, kind⟩ := plan
  -- Each constructor of the judgement is what one or two kinds of plans have in common.
  cases kind with
  | actions steps => exact .steps rfl (lowerActions_composed name steps fun _ => id)
  | reflection steps =>
    exact .steps rfl (lowerReflectiveActions_composed same name steps fun _ => id)
  | testCall call =>
    obtain ⟨method, receiver, args⟩ := call
    exact .testCall rfl (invokeTest_composed method receiver args fun _ => id)
  | primitive value => exact .leaf rfl (.after (literalLeaf_composed value) fun _ => .pure ())
  | text text => exact .leaf rfl (.after (textLeaf_composed text) fun _ => .pure ())
  | mock _ | unknown _ => exact .unsupported id

/-! ### Reading a plan -/

/-- The value of a plan that has been compiled. -/
def compiledValue (name : String) : Lowering ρ Operand := do
  match (← get).bindings.get? name with
  | some var => return .var var
  | none => throw (.noValue name)

/-- A plan that has a value is read as its variable. -/
theorem operand_of_bound {plan : Plan} {session : Compilation ρ} {var : Var}
    (bound : session.bindings.get? plan.name = some var) :
    operand config plan session = .ok (.var var) session := by
  obtain ⟨name, kind⟩ := plan
  have found : session.bindings.get? name = some var := bound
  unfold operand
  rw [get_bind]
  simp only [found]
  rfl

/-- A plan that is made of steps is compiled unless it has a value, and then it must have one. -/
theorem operand_of_steps {plan : Plan} (steps : plan.isLeaf = false) :
    operand (ρ := ρ) config plan = (do
      match (← get).bindings.get? plan.name with
      | some var => return .var var
      | none =>
        once config plan.name (lowerKind config plan.name plan.kind)
        compiledValue plan.name) := by
  funext session
  rw [get_bind]
  cases found : session.bindings.get? plan.name with
  | some var => exact operand_of_bound found
  | none =>
    obtain ⟨name, kind⟩ := plan
    have absent : session.bindings.get? name = none := found
    unfold operand
    rw [get_bind]
    simp only [absent]
    -- Only literals and texts are read in another way.
    cases kind <;> first | rfl | cases steps

/-- A literal or text is read as it is, unless it is null and has to get a variable. -/
theorem operand_of_isLeaf {plan : Plan} (leaf : plan.isLeaf = true) (session : Compilation ρ) :
    (∃ found, ∀ config, operand config plan session = .ok found session) ∨
      session.bindings.isBound plan.name = false ∧ ∃ value, ∀ config,
        operand config plan session = (Operand.var <$> literalLeaf plan.name value) session := by
  cases found : session.bindings.get? plan.name with
  | some var => exact .inl ⟨.var var, fun config => operand_of_bound found⟩
  | none =>
    have unbound : session.bindings.isBound plan.name = false := by
      rw [Bindings.isBound, found]
      rfl
    obtain ⟨name, kind⟩ := plan
    have absent : session.bindings.get? name = none := found
    have unfolded : ∀ config, operand config (.mk name kind) session = _ := fun config => by
      unfold operand
      rw [get_bind]
    simp only [absent] at unfolded
    cases kind with
    | primitive value =>
      -- Null is the only literal that is no constant.
      cases constant : value.constant? with
      | some literal =>
        simp only [constant] at unfolded
        exact .inl ⟨.constant literal, unfolded⟩
      | none =>
        simp only [constant, bind_pure_comp] at unfolded
        exact .inr ⟨unbound, value, unfolded⟩
    | text text => exact .inl ⟨.constant (.text text), unfolded⟩
    | actions _ | reflection _ | testCall _ | mock _ | unknown _ => cases leaf

end Lower

end TestPlan
