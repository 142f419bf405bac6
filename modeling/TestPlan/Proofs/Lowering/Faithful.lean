import TestPlan.Demo.Plans
import TestPlan.Proofs.Lowering.Lowered
import TestPlan.Proofs.Plan.Consistent

/-! A test that is compiled is faithful to its plans: nothing is lost and nothing repeated. -/

namespace TestPlan

variable {ρ : Type} [ClassLoading ρ] {setting : Setting ρ} {session after : Compilation ρ}
  {origins : List Origin}

omit [ClassLoading ρ] in
/-- When the roots form a graph, needed plans of one name are alike. -/
theorem Setting.consistent_of_formed {sharing : Sharing} {graph : PlanGraph}
    (formed : PlanGraph.ofRoots sharing setting.roots = .ok graph) : setting.Consistent :=
  fun _ _ needed needed' => needed.alike formed needed'

/-! ### Roots -/

/-- A lowering after which plans are compiled. -/
structure Compiling (setting : Setting ρ) (plans : List Plan) (lower : Lowering ρ Unit) :
    Prop where
  running : ∀ {session result after}, lower session = .ok result after →
    after.terminated = false → session.terminated = false
  compiles : ∀ {session origins result after}, Traced setting session origins →
    lower session = .ok result after → after.terminated = false →
      ∃ more, Traced setting after more ∧ Keeps session after ∧
        ∀ plan ∈ plans, after.bindings.isCompiled plan.name = true

namespace Lower

omit [ClassLoading ρ] in
/-- A plan that has been compiled at most once is compiled. -/
theorem isCompiled_of_once {config : CompilerConfig} {name : String} {lower : Lowering ρ Unit}
    {result : Unit} (ran : once config name lower session = .ok result after) :
    after.bindings.isCompiled name = true := by
  rcases once_ok ran with ⟨compiled, rfl⟩ | ⟨_, _, inside, _, rfl⟩
  · exact compiled
  · exact Bindings.isCompiled_complete.mpr (.inl rfl)

/-- A root that is a literal or text gets a statement of its own unless it is compiled. -/
theorem compileLeaf_traced {plan : Plan} {config : CompilerConfig} {lower : Lowering ρ Unit}
    {result : Unit} (root : plan ∈ setting.roots) (leaf : plan.isLeaf = true)
    (made : ∀ {session result after}, Loads setting.loader session.loader →
      lower session = .ok result after → LeafMade setting plan session after)
    (traced : Traced setting session origins)
    (ran : once config plan.name lower session = .ok result after) :
    ∃ added, Traced setting after (origins ++ added) ∧ Keeps session after ∧
      ∀ origin ∈ added, ∃ name, origin.plan? = some name ∧ ¬ session.Met name := by
  rcases once_ok ran with ⟨_, rfl⟩ | ⟨uncompiled, outside, inside, lowered, rfl⟩
  · exact ⟨[], by simpa using traced, .refl _, List.forall_mem_nil _⟩
  have unmet := fun met : Compilation.Met _ plan.name =>
    met.elim (fun compiled => by rw [uncompiled] at compiled; cases compiled) outside
  have loads : Loads setting.loader (Compilation.enter _ plan.name).loader := traced.loads
  -- The leaf reads nothing, so entering and leaving the plan makes no difference.
  obtain ⟨last, made, same⟩ := (made loads lowered).of_enter
  rw [same]
  have traced' := made.traced traced (.root root) leaf unmet fun _ => root
  have bound : last.bindings.isBound plan.name = true := by
    rw [Bindings.isBound, made.bound]
    rfl
  refine ⟨[.leaf plan.name], traced'.record (.inl ?_),
    made.keeps.trans (last.keeps_recorded _), fun origin member => ?_⟩
  · rw [Bindings.isCompiled, bound, Bool.or_true]
  · cases List.mem_singleton.mp member
    exact ⟨plan.name, rfl, unmet⟩

/-- A root that is a literal or text is compiled. -/
theorem compileLeaf_compiling {plan : Plan} {config : CompilerConfig} {lower : Lowering ρ Unit}
    (root : plan ∈ setting.roots) (leaf : plan.isLeaf = true)
    (made : ∀ {loader : ρ} {session result after}, Loads loader session.loader →
      lower session = .ok result after → LeafMade { setting with loader } plan session after) :
    Compiling setting [plan] (once config plan.name lower) where
  running ran active := by
    rcases once_ok ran with ⟨_, rfl⟩ | ⟨_, _, inside, lowered, rfl⟩
    · exact active
    · obtain ⟨_, ready, _, _⟩ := made (.refl _) lowered
      exact ready.running
  compiles traced ran _ := by
    obtain ⟨_, traced', kept, -⟩ := compileLeaf_traced root leaf made traced ran
    exact ⟨_, traced', kept, by simpa using isCompiled_of_once ran⟩

/-- A literal or text that is lowered has got its statement. -/
theorem lowerKind_leafMade {plan : Plan} {config : CompilerConfig} {result : Unit}
    (leaf : plan.isLeaf = true) (loads : Loads setting.loader session.loader)
    (ran : lowerKind config plan.name plan.kind session = .ok result after) :
    LeafMade setting plan session after := by
  obtain ⟨name, kind⟩ := plan
  cases kind with
  | primitive value =>
    obtain ⟨_, _, ran, ⟨⟩⟩ := bind_eq_ok_iff.mp ran
    exact (literalLeaf_ok loads rfl ran).2
  | text value =>
    obtain ⟨_, _, ran, ⟨⟩⟩ := bind_eq_ok_iff.mp ran
    exact (textLeaf_ok loads rfl ran).2
  | actions _ | reflection _ | testCall _ | mock _ | unknown _ => cases leaf

/-- A root is compiled. -/
theorem compile_compiling (consistent : setting.Consistent) {plan : Plan}
    (root : plan ∈ setting.roots) :
    Compiling setting [plan] (compile setting.config plan) := by
  obtain ⟨name, kind⟩ := plan
  have needed : Needed setting.roots (.mk name kind) := .root root
  cases kind with
  | primitive _ | text _ =>
    exact compileLeaf_compiling root rfl fun loads ran => lowerKind_leafMade rfl loads ran
  | actions _ | reflection _ | testCall _ | mock _ | unknown _ =>
    -- Other plans are compiled as they are when they are read.
    have reading := @Reading.once _ _ _ _ needed rfl consistent setting.config _
      (lowerKind_completing consistent name _ (fun _ member => needed.read member) rfl)
    refine ⟨reading.running, fun traced ran active => ?_⟩
    obtain ⟨more, grown, _⟩ := reading.grows traced trivial ran active
    exact ⟨more, grown.traced, grown.keeps, by simpa using isCompiled_of_once ran⟩

/-- Roots are compiled one after the other. -/
theorem forM_compiling (consistent : setting.Consistent) :
    ∀ plans ⊆ setting.roots, Compiling setting plans (plans.forM (compile setting.config))
  | [], _ => by
    constructor
    · intro _ _ _ ran active
      cases ran
      exact active
    · intro _ origins _ _ traced ran _
      cases ran
      exact ⟨origins, traced, .refl _, nofun⟩
  | plan :: rest, inside => by
    -- The test is still running after the first root, because it is after all of them.
    have first := compile_compiling consistent (inside List.mem_cons_self)
    have others := forM_compiling consistent rest (List.subset_of_cons_subset inside)
    constructor
    · intro _ _ _ ran active
      obtain ⟨_, _, ran, ran'⟩ := bind_eq_ok_iff.mp ran
      exact first.running ran (others.running ran' active)
    · intro _ _ _ _ traced ran active
      obtain ⟨_, _, ran, ran'⟩ := bind_eq_ok_iff.mp ran
      obtain ⟨_, traced, kept, compiled⟩ :=
        first.compiles traced ran (others.running ran' active)
      obtain ⟨more, traced, kept', compiled'⟩ := others.compiles traced ran' active
      refine ⟨more, traced, kept.trans kept', fun read member => ?_⟩
      rcases List.mem_cons.mp member with rfl | member
      · exact kept'.isCompiled (compiled read List.mem_cons_self)
      · exact compiled' read member

/-! ### The call under test -/

/-- A call that succeeds leaves the test running. -/
theorem invoke_running {method : MethodReference} {callee : Lowering ρ (Option Operand)}
    {args : Lowering ρ (List Operand)} {target : Option String} {result : Unit}
    (ran : invoke method callee args target session = .ok result after) :
    after.terminated = false := by
  -- Both kinds of calls end by appending their statement, which leaves the test running.
  have appended : ∀ {start : Compilation ρ} {target build},
      (∀ result, (build result).defines = result) →
      append target build start = .ok result after → after.terminated = false := by
    intro start target build defines ran
    obtain ⟨ready, _, rfl⟩ := append_ok defines ran
    cases target <;> exact ready.running
  obtain ⟨_, _, _, called⟩ := bind_eq_ok_iff.mp ran
  split at called
  · obtain ⟨_, _, _, called⟩ := bind_eq_ok_iff.mp called
    obtain ⟨_, _, _, called⟩ := bind_eq_ok_iff.mp called
    exact appended (fun _ => rfl) called
  · obtain ⟨_, _, _, called⟩ := bind_eq_ok_iff.mp called
    obtain ⟨_, _, _, called⟩ := bind_eq_ok_iff.mp called
    obtain ⟨_, _, _, called⟩ := bind_eq_ok_iff.mp called
    obtain ⟨_, _, _, called⟩ := bind_eq_ok_iff.mp called
    exact appended (fun _ => rfl) called

/-- The call under test has been appended, and the test is complete. -/
structure Called (setting : Setting ρ) (call : TestCall) (middle after : Compilation ρ) : Prop where
  appended : ∃ statement, Ready middle none statement ∧
    after = { middle.appended statement none with terminated := true }
  prescribed : ∀ later, after.compiled.Kept later →
    setting.PrescribesCall later call middle.test.size

/-- The operands of the call under test are read, and then it is appended. -/
theorem lowerTestCall_called (consistent : setting.Consistent) {call : TestCall}
    (needed : ∀ plan ∈ call.operands, Needed setting.roots plan) {result : Unit}
    (ran : lowerTestCall setting.config call session = .ok result after) :
    session.terminated = false ∧ ∀ {origins}, Traced setting session origins →
      ∃ middle others, Grown setting (fun _ => False) session origins middle others ∧
        Called setting call middle after := by
  obtain ⟨method, receiver, args⟩ := call
  obtain ⟨_, called, invoked, ⟨⟩⟩ := bind_eq_ok_iff.mp ran
  have received : ∀ plan ∈ receiver.toList, Needed setting.roots plan :=
    fun plan member => needed plan (List.mem_append_left _ member)
  have supplied : ∀ plan ∈ args, Needed setting.roots plan :=
    fun plan member => needed plan (List.mem_append_right _ member)
  -- The call is read like any other, but its statement belongs to no step.
  have reaches : Reaches (.nothing : Fact setting)
      (invoke method (receiverOperand setting.config receiver) (operands setting.config args) none)
      fun middle _ after =>
        Called setting (.mk method receiver args) middle { after with terminated := true } := by
    refine invoke_reaches (receiverOperand_reading consistent receiver received)
      (operands_reading consistent args supplied) fun {_ type build callee given} calling => ?_
    refine .here (fun ran => (append_ok calling.defines ran).1.running)
      fun {middle _ _ _} traced holds ran => ?_
    obtain ⟨ready, _, rfl⟩ := append_ok calling.defines ran
    have kept := (Compilation.keeps_appended ready).toKept
    exact {
      appended := ⟨_, ready, rfl⟩
      prescribed := fun later more => ⟨callee, given, _,
        fun isMethod => (calling.received holds isMethod).imp fun _ _ reads =>
          reads.standsFor traced.orderly (kept.trans more),
        (calling.supplied holds).imp fun _ _ reads =>
          reads.standsFor traced.orderly (kept.trans more),
        calling.calls holds .nothing, (Compilation.at_appended none).mono more⟩ }
  have running := invoke_running invoked
  refine ⟨reaches.running invoked running, fun traced => ?_⟩
  exact reaches.reaches traced trivial invoked running

/-- The statement of the call under test is the last one. -/
structure Ended (setting : Setting ρ) (call : TestCall) (middle after : Compilation ρ) : Prop where
  prescribed : setting.PrescribesCall after.compiled call middle.test.size
  size : after.test.size = middle.test.size + 1
  kept : middle.compiled.Kept after.compiled

/-- A call under test that has been appended is the last statement. -/
theorem Called.ended {call : TestCall} {middle : Compilation ρ}
    (called : Called setting call middle after) : Ended setting call middle after := by
  have prescribed := called.prescribed _ (.refl _)
  obtain ⟨_, ready, rfl⟩ := called.appended
  exact ⟨prescribed, Compilation.size_extended _ _, (Compilation.keeps_appended ready).toKept⟩

/-- The operands of the call under test are read, and its statement is the last one. -/
theorem lowerTestCall_ended (consistent : setting.Consistent) {call : TestCall}
    (roots : call.operands ⊆ setting.roots) {result : Unit}
    (ran : lowerTestCall setting.config call session = .ok result after) :
    session.terminated = false ∧ ∀ {origins}, Traced setting session origins →
      ∃ middle others, Grown setting (fun _ => False) session origins middle others ∧
        Ended setting call middle after := by
  obtain ⟨running, calls⟩ := lowerTestCall_called consistent
    (fun plan member => .root (roots member)) ran
  refine ⟨running, fun traced => ?_⟩
  obtain ⟨middle, others, grown, called⟩ := calls traced
  exact ⟨middle, others, grown, called.ended⟩

end Lower

/-! ### Whole tests -/

variable {plan : Plan}

/-- No step goes without a statement. -/
theorem Setting.PrescribesStep.ne_nil {built : CompiledTest} {index : Nat} {positions : List Nat}
    (prescribed : setting.PrescribesStep built plan index positions) : positions ≠ [] := by
  -- Every rule names at least one position, and kinds without steps prescribe nothing.
  unfold Setting.PrescribesStep at prescribed
  split at prescribed
  · obtain ⟨_, _, prescribed⟩ := prescribed
    cases prescribed <;> simp
  · obtain ⟨_, _, prescribed⟩ := prescribed
    cases prescribed <;> simp
  · cases prescribed

/-- All roots of a test have been compiled, and nothing is being compiled. -/
structure Prepared (setting : Setting ρ) (session : Compilation ρ) (origins : List Origin) :
    Prop where
  traced : Traced setting session origins
  consistent : setting.Consistent
  outermost : session.active = []
  roots : ∀ root ∈ setting.roots, session.bindings.isCompiled root.name = true

namespace Prepared

variable (prepared : Prepared setting session origins)

include prepared

/-- A settled plan stands for all plans of its name. -/
theorem settled_of_isCompiled (needed : Needed setting.roots plan)
    (compiled : session.bindings.isCompiled plan.name = true) :
    ∃ lowered, Needed setting.roots lowered ∧ plan.Alike lowered ∧
      Settled setting session.compiled origins lowered := by
  obtain ⟨lowered, needed', named, settled⟩ :=
    prepared.traced.settled plan.name compiled (by simp [prepared.outermost])
  exact ⟨lowered, needed', prepared.consistent plan lowered needed needed' named.symm, settled⟩

/-- What a compiled plan reads has a variable, or is a constant. -/
theorem isBound_of_read {consumer : Plan} (needed : Needed setting.roots consumer)
    (compiled : session.bindings.isCompiled consumer.name = true)
    (read : plan ∈ consumer.kind.reads) (absent : plan.constant? = none) :
    session.bindings.isBound plan.name = true := by
  obtain ⟨lowered, needed', alike, settled⟩ := prepared.settled_of_isCompiled needed compiled
  -- The plan that stands for the consumer reads a plan of the same name.
  have name : plan.name ∈ lowered.kind.reads.map Plan.name :=
    alike.reads ▸ List.mem_map_of_mem read
  obtain ⟨read', member, named⟩ := List.mem_map.mp name
  have alike' :=
    prepared.consistent read' plan (needed'.read member) (needed.read read) named
  rw [← named]
  exact settled.served read' member (alike'.constant?_eq_none absent)

/-- All that the roots need is compiled, or is a constant. -/
theorem isCompiled_of_needed (needed : Needed setting.roots plan) :
    plan.constant? = none → session.bindings.isCompiled plan.name = true := by
  induction needed with
  | root member => exact fun _ => prepared.roots _ member
  | @read consumer plan needed read ih =>
    intro absent
    -- What reads anything is made of steps.
    have steps : consumer.isLeaf = false := by
      rw [← Bool.not_eq_true]
      intro leaf
      rw [Plan.reads_of_isLeaf leaf] at read
      cases read
    have bound := prepared.isBound_of_read needed (ih (Plan.constant?_of_isLeaf steps)) read absent
    exact Bool.or_eq_true_iff.mpr (.inr bound)

/-- What comes from a plan comes from one that is settled. -/
theorem settled_of_mem {origin : Origin} {name : String} (member : origin ∈ origins)
    (named : origin.plan? = some name) :
    ∃ lowered, Needed setting.roots lowered ∧ lowered.name = name ∧
      Settled setting session.compiled origins lowered := by
  obtain ⟨name', named', met⟩ := prepared.traced.met origin member
  rw [named] at named'
  cases named'
  -- Since nothing is being compiled, what has been met has been compiled.
  have outside : name ∉ session.active := by simp [prepared.outermost]
  exact prepared.traced.settled name (met.resolve_right outside) outside

/-- A plan with steps has been lowered. -/
theorem settled_of_steps (needed : Needed setting.roots plan) (steps : 0 < plan.stepCount) :
    ∃ lowered, Needed setting.roots lowered ∧ plan.Alike lowered ∧
      Settled setting session.compiled origins lowered := by
  -- A literal or text has no steps.
  have noLeaf : plan.isLeaf = false := by
    rw [← Bool.not_eq_true]
    intro leaf
    rw [Plan.stepCount_of_isLeaf leaf] at steps
    exact Nat.lt_irrefl 0 steps
  exact prepared.settled_of_isCompiled needed
    (prepared.isCompiled_of_needed needed (Plan.constant?_of_isLeaf noLeaf))

/-- Exactly the steps of needed plans have statements. -/
theorem step_mem_iff {name : String} {index : Nat} :
    .step name index ∈ origins ↔
      ∃ plan, Needed setting.roots plan ∧ plan.name = name ∧ index < plan.stepCount := by
  constructor
  · intro member
    obtain ⟨lowered, needed, rfl, settled⟩ := prepared.settled_of_mem member rfl
    exact ⟨lowered, needed, rfl, settled.indices index member⟩
  · rintro ⟨plan, needed, rfl, inside⟩
    obtain ⟨lowered, _, alike, settled⟩ :=
      prepared.settled_of_steps needed (Nat.zero_lt_of_lt inside)
    have prescribed := settled.steps index (alike.stepCount ▸ inside) _ (.refl _)
    rw [← alike.name] at prescribed
    -- A step without positions would go without a statement.
    by_contra missing
    exact prescribed.ne_nil (positionsOf_eq_nil_iff.mpr missing)

/-- Exactly the literals and texts that are roots, and the nulls that are read, have statements. -/
theorem leaf_mem_iff {name : String} :
    .leaf name ∈ origins ↔ ∃ plan, plan.name = name ∧
      (plan ∈ setting.roots ∧ plan.isLeaf = true ∨
        Needed setting.roots plan ∧ plan.isNull = true) := by
  constructor
  · intro member
    obtain ⟨lowered, needed, rfl, settled⟩ := prepared.settled_of_mem member rfl
    -- A leaf with a constant got its variable as a root, and one without is null.
    have leaf := settled.leaf member
    refine ⟨lowered, rfl, ?_⟩
    cases constant : lowered.constant? with
    | some value => exact .inl ⟨settled.root (by rw [constant]; rfl), leaf⟩
    | none => exact .inr ⟨needed, Plan.isNull_iff.mpr ⟨leaf, constant⟩⟩
  · rintro ⟨plan, rfl, needed⟩
    -- Roots are compiled whatever they are, and nulls wherever they are read.
    have ⟨compiled, needed, leaf⟩ : session.bindings.isCompiled plan.name = true ∧
        Needed setting.roots plan ∧ plan.isLeaf = true := by
      rcases needed with ⟨root, leaf⟩ | ⟨needed, null⟩
      · exact ⟨prepared.roots plan root, .root root, leaf⟩
      · obtain ⟨leaf, absent⟩ := Plan.isNull_iff.mp null
        exact ⟨prepared.isCompiled_of_needed needed absent, needed, leaf⟩
    obtain ⟨lowered, _, alike, settled⟩ := prepared.settled_of_isCompiled needed compiled
    obtain ⟨position, only, _⟩ := settled.statement (alike.isLeaf ▸ leaf)
    rw [alike.name]
    by_contra missing
    rw [positionsOf_eq_nil_iff.mpr missing] at only
    cases only

/-- The call under test has not been appended. -/
theorem call_not_mem : .call ∉ origins := by
  intro member
  obtain ⟨_, ⟨⟩, _⟩ := prepared.traced.met _ member

/-- When the call has been appended as well, the test is faithful. -/
theorem faithful {call : TestCall} (ended : Lower.Ended setting call session after) :
    Faithful setting call after.compiled (origins ++ [.call]) := by
  -- The call adds nothing to any other origin.
  have mem : ∀ origin : Origin, origin ≠ .call →
      (origin ∈ origins ++ [.call] ↔ origin ∈ origins) := fun origin other => by
    rw [List.mem_append, List.mem_singleton, or_iff_left other]
  have positions : ∀ origin : Origin, origin ≠ .call →
      positionsOf (origins ++ [.call]) origin = positionsOf origins origin := fun origin other =>
    positionsOf_append fun last => other (List.mem_singleton.mp last)
  constructor
  · rw [List.length_append, prepared.traced.length]
    exact ended.size.symm
  · exact fun name index => (mem (.step name index) nofun).trans prepared.step_mem_iff
  · exact fun name => (mem (.leaf name) nofun).trans prepared.leaf_mem_iff
  · exact ⟨origins, rfl, prepared.call_not_mem⟩
  · intro name first second less position there later there'
    rw [positions (.step name first) nofun] at there
    rw [positions (.step name second) nofun] at there'
    have member := List.mem_of_getElem? (mem_positionsOf.mp there)
    obtain ⟨lowered, _, rfl, settled⟩ := prepared.settled_of_mem member rfl
    exact settled.in_order first second less position there later there'
  · intro plan needed steps
    obtain ⟨lowered, needed', alike, settled⟩ := prepared.settled_of_steps needed steps
    refine ⟨lowered, needed', alike.name.symm, alike.stepCount.symm, fun index inside => ?_⟩
    rw [positions (.step lowered.name index) nofun]
    exact settled.steps index inside _ ended.kept
  · intro name member
    have member := (mem (.leaf name) nofun).mp member
    obtain ⟨lowered, needed, rfl, settled⟩ := prepared.settled_of_mem member rfl
    obtain ⟨position, only, prescribed⟩ := settled.statement (settled.leaf member)
    exact ⟨lowered, position, needed, rfl, (positions (.leaf lowered.name) nofun).trans only,
      prescribed _ ended.kept⟩
  · have size : after.compiled.test.statements.length - 1 = session.test.size :=
      (congrArg (· - 1) ended.size).trans (Nat.add_sub_cancel _ _)
    rw [size]
    exact ended.prescribed

end Prepared

/-- A compilation that has not begun is traced. -/
theorem Traced.initial : Traced setting ({ loader := setting.loader } : Compilation ρ) [] where
  orderly := .initial setting.loader
  running := rfl
  loads := .refl _
  length := rfl
  met := nofun
  settled := nofun
  active := nofun

/-- A test that goes on from a traced compilation is faithful, if its other roots are compiled. -/
theorem Traced.compileTest_faithful_of_roots (traced : Traced setting session origins)
    (alike : setting.Consistent) (outermost : session.active = []) {sharing : Sharing}
    {method : MethodReference} {parameters : Parameters}
    (roots : parameters.roots ⊆ setting.roots)
    (others : ∀ root ∈ setting.roots, root ∈ parameters.roots ∨
      session.bindings.isCompiled root.name = true)
    {test : CompiledTest} {last : Compilation ρ}
    (compiled : Lower.compileTest sharing setting.config method parameters session
      = .ok test last) :
    ∃ more, Faithful setting (parameters.testCall method) test more := by
  obtain ⟨rfl, prepared, prepares, calls⟩ := Lower.compileTest_ok compiled
  have operands : (parameters.testCall method).operands ⊆ setting.roots :=
    List.Subset.trans (List.subset_append_left _ _) roots
  obtain ⟨running, ends⟩ := Lower.lowerTestCall_ended alike operands calls
  obtain ⟨_, traced, kept, compiled⟩ :=
    (Lower.forM_compiling alike parameters.roots roots).compiles traced prepares running
  obtain ⟨middle, more, grown, ended⟩ := ends traced
  -- Reading the operands of the call keeps the roots compiled.
  have prepared : Prepared setting middle more := {
    traced := grown.traced
    consistent := alike
    outermost := grown.keeps.active.trans (kept.active.trans outermost)
    roots := fun root member => grown.keeps.isCompiled
      ((others root member).elim (compiled root) kept.isCompiled) }
  exact ⟨_, prepared.faithful ended⟩

/--
A test that is compiled from plans of which those of one name are equal is faithful to them:
every statement comes from one step of a plan, from one literal or from the call, and the
statements of each are those that its rule prescribes.
-/
theorem compileTest_faithful (sharing : Sharing) (loader : ρ) (config : CompilerConfig)
    (method : MethodReference) (parameters : Parameters) {graph : PlanGraph}
    (consistent : PlanGraph.ofRoots sharing parameters.roots = .ok graph) {test : CompiledTest}
    {after : Compilation ρ}
    (compiled : Lower.compileTest sharing config method parameters { loader } = .ok test after) :
    ∃ origins, Faithful ⟨config, loader, parameters.roots⟩ (parameters.testCall method) test
      origins := by
  -- The graph is needed only for this.
  have alike : Setting.Consistent ⟨config, loader, parameters.roots⟩ :=
    Setting.consistent_of_formed consistent
  exact Traced.initial.compileTest_faithful_of_roots alike rfl (List.Subset.refl _)
    (fun _ => .inl) compiled

/-- The distance of two points, with an array, a null, one of the points again and two numbers. -/
def Demo.distance : Parameters where
  receiver := some (pointAt "p" 1 2)
  arguments := [pointAt "q" 3 4]
  statics := [intArray "s" [5, 6], pointAt "p" 1 2, null "n", undefinedNumber "u",
    undefinedNumber "u"]

/-- The test of a distance is faithful to its plans, with one undefined number prepared twice. -/
theorem compileTest_faithful_distance :
    ∃ (graph : PlanGraph) (test : CompiledTest) (after : Session) (origins : List Origin),
      PlanGraph.ofRoots Demo.literalsShared Demo.distance.roots = .ok graph ∧
      Lower.compileTest Demo.literalsShared {} Demo.pointDistance Demo.distance
        { loader := Demo.loader [] } = .ok test after ∧
      Faithful ⟨{}, Demo.loader [], Demo.distance.roots⟩
        (Demo.distance.testCall Demo.pointDistance) test origins := by
  obtain ⟨graph, built⟩ : ∃ graph,
      PlanGraph.ofRoots Demo.literalsShared Demo.distance.roots = .ok graph :=
    exists_ok_of_isOk (by decide +kernel)
  obtain ⟨test, after, ran⟩ : ∃ test after, Lower.compileTest Demo.literalsShared {}
      Demo.pointDistance Demo.distance ({ loader := Demo.loader [] } : Session) = .ok test after :=
    exists_ok_of_run' (by decide +kernel)
  obtain ⟨origins, faithful⟩ := compileTest_faithful _ _ _ _ _ built ran
  exact ⟨graph, test, after, origins, built, ran, faithful⟩

end TestPlan
