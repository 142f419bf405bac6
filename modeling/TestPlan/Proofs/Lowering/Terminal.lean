import TestPlan.Proofs.Lowering.Stages

/-! A compiled test ends with the call under test, on variables that its plans have got before. -/

namespace TestPlan

variable {ρ : Type} [ClassLoading ρ] {setting : Setting ρ} {session after : Compilation ρ}
  {origins : List Origin}

/-! ### Operands that are variables -/

/-- The operand is the variable that holds the value of the plan. -/
def CompiledTest.HeldBy (built : CompiledTest) (plan : Plan) (operand : Operand) : Prop :=
  ∃ var, built.bindings.get? plan.name = some var ∧ operand = .var var

namespace Prepared

/-- A literal or text that is compiled has a variable. -/
theorem isBound_of_isCompiled {plan : Plan} (prepared : Prepared setting session origins)
    (needed : Needed setting.roots plan)
    (compiled : session.bindings.isCompiled plan.name = true) (leaf : plan.isLeaf = true) :
    session.bindings.isBound plan.name = true := by
  obtain ⟨lowered, _, alike, settled⟩ := prepared.settled_of_isCompiled needed compiled
  obtain ⟨_, _, prescribed⟩ := settled.statement (alike.isLeaf ▸ leaf)
  rw [alike.name]
  exact (prescribed session.compiled (.refl _)).isBound

variable {root : Plan} (prepared : Prepared setting session origins)
  (member : root ∈ setting.roots)

include prepared member

/-- When all roots have been compiled, those that are literals or texts have variables. -/
theorem isBound_of_isLeaf (leaf : root.isLeaf = true) :
    session.bindings.isBound root.name = true :=
  prepared.isBound_of_isCompiled (.root member) (prepared.roots root member) leaf

/-- When all roots have been compiled, they are read as variables and not as constants. -/
theorem heldBy {later : CompiledTest} {operand : Operand}
    (kept : session.compiled.Kept later)
    (stands : later.StandsFor session.test.size root operand) : later.HeldBy root operand := by
  cases stands with
  | var bound => exact ⟨_, bound, rfl⟩
  | constant found late =>
    -- Only literals and texts are constants, and as a root each of them has got its variable.
    have leaf : root.isLeaf = true := by
      rw [← Bool.not_eq_false]
      intro steps
      rw [Plan.constant?_of_isLeaf steps] at found
      cases found
    obtain ⟨var, bound⟩ := Option.isSome_iff_exists.mp (prepared.isBound_of_isLeaf member leaf)
    have orderly := prepared.traced.orderly
    obtain ⟨position, defined⟩ := orderly.bound_defined _ _ (Bindings.mem_of_get? bound)
    have inside := orderly.coherent.definedAt?_lt defined
    obtain ⟨later, defined', behind⟩ := late var (kept.get? bound)
    rw [kept.definedAt? defined] at defined'
    cases defined'
    exact absurd inside (Nat.not_lt.mpr behind)

end Prepared

/-! ### The last statement -/

/-- The call of a method or constructor on the variables of plans, whose result is not kept. -/
inductive Setting.CallsOn (setting : Setting ρ) (built : CompiledTest) (method : MethodReference)
    (receiver : Option Plan) (args : List Plan) : Statement → Prop
  | constructor {loaded : LoadedClass} {handle : ConstructorHandle} {operands : List Operand} :
      method.isConstructor = true →
      setting.Finds (Resolve.constructor method) (loaded, handle) →
      List.Forall₂ built.HeldBy args operands →
        CallsOn setting built method receiver args (.constructor handle operands none)
  | method {handle : MethodHandle} {callee : Option Operand} {operands : List Operand} :
      method.isConstructor = false →
      setting.Finds (Resolve.method method) handle →
      List.Forall₂ built.HeldBy receiver.toList callee.toList →
      List.Forall₂ built.HeldBy args operands →
        CallsOn setting built method receiver args (.method handle callee operands none)

/-- A call on the variables of plans defines no variable. -/
theorem Setting.CallsOn.defines {built : CompiledTest} {method : MethodReference}
    {receiver : Option Plan} {args : List Plan} {statement : Statement}
    (calls : setting.CallsOn built method receiver args statement) : statement.defines = none := by
  cases calls <;> rfl

/-- When all roots have been compiled, the call under test is on their variables. -/
theorem Lower.Ended.callsOn {method : MethodReference} {receiver : Option Plan} {args : List Plan}
    (ended : Ended setting (.mk method receiver args) session after)
    (prepared : Prepared setting session origins)
    (roots : (TestCall.mk method receiver args).operands ⊆ setting.roots) :
    ∃ statement, after.test.statements.getLast? = some statement ∧
      setting.CallsOn after.compiled method receiver args statement := by
  have held : ∀ {plans operands}, plans ⊆ (TestCall.mk method receiver args).operands →
      after.compiled.StandForAll session.test.size plans operands →
      List.Forall₂ after.compiled.HeldBy plans operands := fun inside stand => by
    -- Each of the plans is a root, besides being read.
    have read := (List.forall₂_and_left _ _).mpr ⟨fun plan member => roots (inside member), stand⟩
    exact read.imp fun _ _ ⟨root, stands⟩ => prepared.heldBy root ended.kept stands
  obtain ⟨callee, operands, statement, received, supplied, calls, there⟩ := ended.prescribed
  -- The call is the only statement after the roots.
  have last : after.test.statements.getLast? = some statement := by
    have size : after.test.statements.length = session.test.size + 1 := ended.size
    rw [List.getLast?_eq_getElem?, size, Nat.add_sub_cancel]
    exact there
  have given := held (List.subset_append_right _ _) supplied
  refine ⟨statement, last, ?_⟩
  cases calls with
  | constructor isConstructor finds receives =>
    cases receives
    exact .constructor isConstructor finds given
  | method isMethod finds _ receives =>
    cases receives
    exact .method isMethod finds (held (List.subset_append_left _ _) (received isMethod)) given

/-- When all roots have been compiled and the test is running, they need no call under test. -/
theorem Prepared.not_isTestCall {plan : Plan} {sharing : Sharing} {graph : PlanGraph}
    (prepared : Prepared setting session origins) (honest : Honest setting.roots session)
    (consistent : PlanGraph.ofRoots sharing setting.roots = .ok graph)
    (needed : Needed setting.roots plan) : plan.isTestCall = false := by
  rw [← Bool.not_eq_true]
  intro call
  -- The call would have been compiled like all that is no constant, and the test be complete.
  have compiled := prepared.isCompiled_of_needed needed
    (Plan.constant?_of_isLeaf (Plan.isLeaf_of_isTestCall call))
  obtain ⟨node, found, linked⟩ := needed.get? consistent
  exact honest.not_isTestCall prepared.outermost consistent found compiled prepared.traced.running
    (linked.roles?.2.trans call)

/--
A test that is compiled from plans of which those of one name are equal ends with the call under
test. The call is on the variables of its operands, never on constants, and its result goes into
no variable. None of the plans that the test needs is a call under test itself.
-/
theorem compileTest_terminal (sharing : Sharing) (loader : ρ) (config : CompilerConfig)
    (method : MethodReference) (parameters : Parameters) {graph : PlanGraph}
    (consistent : PlanGraph.ofRoots sharing parameters.roots = .ok graph) {test : CompiledTest}
    {after : Compilation ρ}
    (compiled : Lower.compileTest sharing config method parameters { loader } = .ok test after) :
    (∃ statement, test.test.statements.getLast? = some statement ∧ statement.defines = none ∧
      Setting.CallsOn ⟨config, loader, parameters.roots⟩ test method parameters.receiver
        parameters.arguments statement) ∧
      ∀ plan, Needed parameters.roots plan → plan.isTestCall = false := by
  obtain ⟨rfl, prepared, _, middle, _, ready, honest, _, ready', ended⟩ :=
    Lower.compileTest_stages consistent compiled
  obtain ⟨statement, last, calls⟩ := ended.callsOn ready' (List.subset_append_left _ _)
  exact ⟨⟨statement, last, calls.defines, calls⟩,
    fun plan needed => ready.not_isTestCall honest consistent needed⟩

/-- The translation of a point by two numbers, which are no operands of anything else. -/
def Demo.translation : Parameters where
  receiver := some (pointAt "p" 1 2)
  arguments := [int "dx" 3, int "dy" 4]

/-- The test of a translation ends with its call, on variables of the point and of the numbers. -/
theorem compileTest_terminal_translation :
    ∃ (graph : PlanGraph) (test : CompiledTest) (after : Session) (statement : Statement),
      PlanGraph.ofRoots .none Demo.translation.roots = .ok graph ∧
      Lower.compileTest .none {} Demo.pointTranslate Demo.translation { loader := Demo.loader [] }
        = .ok test after ∧
      test.test.statements.getLast? = some statement ∧
      Setting.CallsOn ⟨{}, Demo.loader [], Demo.translation.roots⟩ test Demo.pointTranslate
        Demo.translation.receiver Demo.translation.arguments statement := by
  obtain ⟨graph, consistent⟩ : ∃ graph,
      PlanGraph.ofRoots .none Demo.translation.roots = .ok graph :=
    exists_ok_of_isOk (by decide +kernel)
  obtain ⟨test, after, ran⟩ : ∃ test after,
      Lower.compileTest .none {} Demo.pointTranslate Demo.translation
        ({ loader := Demo.loader [] } : Session) = .ok test after :=
    exists_ok_of_run' (by decide +kernel)
  obtain ⟨⟨statement, last, _, calls⟩, _⟩ := compileTest_terminal _ _ _ _ _ consistent ran
  exact ⟨graph, test, after, statement, consistent, ran, last, calls⟩

end TestPlan
