import TestPlan.Demo.Plans
import TestPlan.Proofs.Lowering.CorrespondingPlans
import TestPlan.Proofs.Lowering.Replaced
import TestPlan.Proofs.Lowering.Requests

/-! A leaf that is only read may be inlined or get a variable first: the tests agree in all else. -/

namespace TestPlan

/-- A leaf that is read in a test but is none of its roots, with the constant that it stands for. -/
structure OnlyRead (sharing : Sharing) (roots : List Plan) (leaf : Plan) (value : Constant) :
    Prop where
  formed : ∃ graph, PlanGraph.ofRoots sharing roots = .ok graph
  reachable : Reachable roots leaf
  constant : leaf.constant? = some value
  noRoot : ∀ root ∈ roots, root.name ≠ leaf.name

/-! ### Compilations behind a leaf -/

/-- A compilation that has a leaf first, and then goes on like another compilation. -/
structure Compilation.Behind (leaf : Plan) (value : Constant) (session session' : Session) :
    Prop where
  built : session.compiled.Behind leaf value session'.compiled
  space : session'.loader.space = session.loader.space
  active : session'.active = session.active
  terminated : session'.terminated = session.terminated

namespace Correspondence

variable (roots : List Plan) (leaf : Plan) (value : Constant)

/-- Compilations of the same plans, one of them behind the statement of a leaf. -/
def behind : Correspondence Loader where
  names := id
  vars := Var.next
  positions := Nat.succ
  loaders loader loader' := loader'.space = loader.space
  states := Compilation.Behind leaf value
  plans plan plan' := plan' = plan ∧ Reachable roots plan
  literals := Eq
  constants := Eq
  common name := name ≠ leaf.name
  stands := Replaced leaf

variable {roots leaf value}

/-- Compilations correspond when one of them is behind the statement of a leaf that is only read. -/
theorem behind_lawful {sharing : Sharing} (onlyRead : OnlyRead sharing roots leaf value) :
    (behind roots leaf value).Lawful where
  injective := Function.injective_id
  same := Loader.sameClasses
  twins := by
    rintro _ plan ⟨rfl, reachable⟩
    exact ⟨rfl, .refl (fun _ _ => rfl) fun operand member => ⟨rfl, reachable.operand member⟩⟩
  asInt? same := same ▸ rfl
  constant? same := same ▸ Literal.rel_constant? _
  primitive? same := same ▸ rfl
  stands _ operand common := .other operand common
  constants _ value _ same common := same ▸ .other (.constant value) common
  loader start := start.space
  reload start same := { start with space := same }
  active start := start.active.trans (List.map_id _).symm
  activate active start := { start with active := List.map_id active }
  terminated start := start.terminated
  terminate start := { start with terminated := rfl }
  get? start other := start.built.bindings.get?_of_ne other
  bind var start other := { start with
    built := { start.built with bindings := start.built.bindings.bind other var } }
  isCompiled start other := start.built.bindings.isCompiled_of_ne other
  complete {_ _ name} start _ := { start with
    built := { start.built with bindings := start.built.bindings.complete name } }
  inline := by
    rintro session session' _ plan start ⟨rfl, reachable⟩ alike
    have named : plan.name = leaf.name := not_not.mp alike
    obtain ⟨graph, formed⟩ := onlyRead.formed
    -- A plan of the name of the leaf is linked to it, and so it is a constant as well.
    have linked := reachable.linked formed onlyRead.reachable named
    obtain ⟨constant, stands⟩ : ∃ constant, plan.constant? = some constant := by
      refine Option.ne_none_iff_exists'.mp fun absent => ?_
      have absent' := linked.symm.alike.1.constant?_eq_none absent
      rw [onlyRead.constant] at absent'
      cases absent'
    refine ⟨constant, leafVar, stands, ?_, ?_, .leaf named linked stands⟩
    · rw [named]
      exact start.built.bindings.unbound
    · rw [named]
      exact start.built.bindings.get?_leaf
  declare type start := by
    obtain ⟨next, declared⟩ := start.built.test.declare type
    exact ⟨next, { start with built := { start.built with test := declared } }⟩
  append {session session' _ statement statement'} start corresponds := by
    have appended := start.built.test.append corresponds.of_eq
    change Answers _ _ (session.test.append statement) (session'.test.append statement') at appended
    generalize session.test.append statement = added, session'.test.append statement' = added'
      at appended ⊢
    cases appended with
    | ok behind => exact .ok { start with built := { start.built with test := behind } }
    | error same => exact .error same
  typeName start replaced := start.built.test.operandTypeName?_eq onlyRead.constant replaced

end Correspondence

/-! ### The statement of the leaf -/

namespace Resolve

variable {ρ : Type} [ClassLoading ρ]

/-- The type of texts is found by loading its class. -/
theorem typeNamed_stringClass :
    (typeNamed stringClass : Lookup ρ RuntimeType) = do return (← load stringClass).type := by
  have levels : arrayLevels stringClass.toList.reverse = (0, stringClass.toList.reverse) := by
    decide +kernel
  have noKeyword : Primitive.ofKeyword? stringClass = none := by decide +kernel
  simp only [typeNamed, levels, List.reverse_reverse, String.ofList_toList, elementNamed, noKeyword]
  rw [if_neg (by decide)]
  simp [Nat.repeat]

end Resolve

namespace Lower

variable {config : CompilerConfig} {roots : List Plan} {leaf : Plan} {value : Constant}
  {loader : Loader}

/-- A constant gets the first variable of a compilation that has just begun. -/
theorem define_first (name : String) (type : RuntimeType) (value : Constant) (loader : Loader)
    (active : List String) :
    define name type (.constant value) ({ loader, active } : Session)
      = .ok leafVar {
        loader, active
        test := ⟨[.constant value leafVar], [leafVariable type]⟩
        bindings := ⟨[(name, leafVar)], []⟩ } :=
  rfl

/-- A compilation that has just begun may enter a plan when any nesting is allowed. -/
theorem checkNesting_first (nests : config.maxDepth ≠ some 0) (name : String) (loader : Loader) :
    checkNesting config name ({ loader } : Session) = .ok () { loader } := by
  unfold checkNesting
  rw [get_bind]
  cases limited : config.maxDepth with
  | none => rfl
  | some limit =>
    have positive : ¬ limit.toNat ≤ 0 := by
      intro zero
      refine nests (limited.trans (congrArg some ?_))
      exact UInt64.toNat_inj.mp (Nat.le_zero.mp zero)
    simp [positive]
    rfl

/-- The type of texts is found when its class can be loaded. -/
theorem resolve_stringClass {loaded : LoadedClass} {after : Loader} (session : Session)
    (loads : Loader.load stringClass session.loader = .ok loaded after) :
    resolve (Resolve.typeNamed stringClass) session
      = .ok loaded.type { session with loader := after } := by
  have found : Resolve.typeNamed stringClass session.loader = .ok loaded.type after := by
    rw [Resolve.typeNamed_stringClass]
    refine bind_of_ok ?_
    simp only [Resolve.load, EStateM.adaptExcept, ClassLoading.load, loads]
  simp only [resolve, found]

/-- The statement of a leaf comes first in a compilation that has just begun. -/
theorem lowerKind_leaf (config : CompilerConfig)
    (loads : ∃ loaded after, Loader.load stringClass loader = .ok loaded after)
    (constant : leaf.constant? = some value) (active : List String) :
    ∃ (type : RuntimeType) (after : Loader), type.typeName = value.typeName ∧
      after.space = loader.space ∧
      lowerKind config leaf.name leaf.kind ({ loader, active } : Session) = .ok () {
        loader := after, active
        test := ⟨[.constant value leafVar], [leafVariable type]⟩
        bindings := ⟨[(leaf.name, leafVar)], []⟩ } := by
  obtain ⟨name, kind⟩ := leaf
  -- The type of a primitive is known, while the class of texts has to be loaded.
  cases kind with
  | primitive literal =>
    have found : literal.constant? = some value := constant
    refine ⟨(value.primitive?.map RuntimeType.primitive).getD .void, loader, ?_, rfl, ?_⟩
    · cases literal <;> cases found <;> rfl
    · simp only [lowerKind, Plan.kind, literalLeaf, found]
      exact bind_of_ok (define_first name _ value loader active)
  | text text =>
    cases constant
    obtain ⟨loaded, after, loads⟩ := loads
    obtain ⟨named, same⟩ := Loader.load_ok loads
    refine ⟨loaded.type, after, named, same, ?_⟩
    have found := resolve_stringClass { loader, active } loads
    have made : textLeaf name text ({ loader, active } : Session) = _ :=
      (bind_of_ok found).trans (define_first name loaded.type (.text text) after active)
    exact bind_of_ok made
  | actions | reflection | testCall | mock | unknown => cases constant

/-- Compiling a leaf first gives it the first variable. -/
theorem compile_leaf (loads : ∃ loaded after, Loader.load stringClass loader = .ok loaded after)
    (nests : config.maxDepth ≠ some 0) (constant : leaf.constant? = some value) :
    ∃ ready, compile config leaf ({ loader } : Session) = .ok () ready ∧
      Compilation.Behind leaf value { loader } ready := by
  obtain ⟨type, after, named, same, lowered⟩ :=
    lowerKind_leaf config loads constant [leaf.name]
  have entered : within leaf.name (lowerKind config leaf.name leaf.kind) ({ loader } : Session)
      = .ok () {
        loader := after
        test := ⟨[.constant value leafVar], [leafVariable type]⟩
        bindings := ⟨[(leaf.name, leafVar)], []⟩ } := by
    simp only [within, Compilation.enter, lowered]
    rfl
  have nested := checkNesting_first nests leaf.name loader
  refine ⟨_, (bind_of_ok nested).trans (bind_of_ok entered), ?_⟩
  exact {
    built := {
      test := ⟨⟨[], rfl, .nil⟩, type, named, rfl⟩
      bindings := ⟨rfl, rfl, rfl⟩ }
    space := same
    active := rfl
    terminated := rfl }

/-! ### Tests behind a leaf -/

end Lower

/--
A test that has the statement of a leaf first, and then the statements of another test, in which
other variables are declared one later and the variable of the leaf takes the place of the operands
that stand for it: those in the slots that the step, or the call, of their own statement has for
plans of its name.
-/
structure Inlined (setting : Setting Loader) (call : TestCall) (leaf : Plan) (value : Constant)
    (origins : List Origin) (built built' : CompiledTest) : Prop where
  first : built'.At 0 (.constant value leafVar)
  size : built'.test.size = built.test.size + 1
  declared : ∃ type, type.typeName = value.typeName ∧
    built'.test.declared = leafVariable type :: built.test.declared.map Variable.next
  bindings : built.bindings.Behind leaf built'.bindings
  /-- The origins tell which step each statement comes from, now that the leaf is a root as well. -/
  faithful : Faithful { setting with roots := leaf :: setting.roots } call built' origins
  statements : ∀ position statement, built.At position statement → ∃ statement' slots,
    built'.At (position + 1) statement' ∧
      SlotsAt (leaf :: setting.roots) call origins (position + 1) slots ∧
        statement.Behind leaf slots statement'

/-- A faithful test that goes on behind a leaf has the variable of the leaf where it stands. -/
theorem CompiledTest.Behind.inlined {setting : Setting Loader} {call : TestCall} {leaf : Plan}
    {value : Constant} {origins : List Origin} {built built' : CompiledTest}
    (behind : built.Behind leaf value built') (constant : leaf.isLeaf = true)
    (consistent : Setting.Consistent { setting with roots := leaf :: setting.roots })
    (faithful : Faithful { setting with roots := leaf :: setting.roots } call built' origins) :
    Inlined setting call leaf value origins built built' where
  first := by
    obtain ⟨rest, same, _⟩ := behind.test.statements
    rw [CompiledTest.At, same]
    rfl
  size := behind.test.size_eq
  declared := behind.test.declared
  bindings := behind.bindings
  faithful := faithful
  statements position statement there := by
    have related := behind.test.rel_statements position
    rw [there] at related
    generalize after : built'.test.statements[position + 1]? = found at related
    cases related with
    | some twins =>
      obtain ⟨_, twins⟩ := twins
      -- The slots are those of where the statement of the faithful test comes from.
      obtain ⟨slots, slotsAt, statement', there', suits⟩ := faithful.exists_slotsAt behind.ledBy
        List.mem_cons_self constant consistent (Nat.succ_pos position)
        (List.getElem?_eq_some_iff.mp after).1
      cases there'.symm.trans after
      exact ⟨_, slots, there', slotsAt, twins.of_suits behind.ledBy suits⟩

/-- What is needed besides the leaf can be reached without it. -/
theorem OnlyRead.reachable_of_needed {sharing : Sharing} {roots : List Plan} {leaf plan : Plan}
    {value : Constant} (onlyRead : OnlyRead sharing roots leaf value)
    (needed : Needed (leaf :: roots) plan) : Reachable roots plan := by
  induction needed with
  | root member =>
    rcases List.mem_cons.mp member with rfl | member
    · exact onlyRead.reachable
    · exact .root member
  | @read consumer _ _ read ih => exact ih.operand (consumer.kind.reads_subset read)

/-- When a leaf that is only read is compiled as well, plans of one name are still alike. -/
theorem OnlyRead.consistent {sharing : Sharing} {config : CompilerConfig} {loader : Loader}
    {roots : List Plan} {leaf : Plan} {value : Constant}
    (onlyRead : OnlyRead sharing roots leaf value) :
    Setting.Consistent ⟨config, loader, leaf :: roots⟩ := by
  obtain ⟨graph, formed⟩ := onlyRead.formed
  intro plan other needed needed' named
  have linked := (onlyRead.reachable_of_needed needed).linked formed
    (onlyRead.reachable_of_needed needed') named
  exact linked.alike.1

namespace Lower

variable {config : CompilerConfig} {roots : List Plan} {leaf : Plan} {value : Constant}
  {loader : Loader}

/-- In the failure of a test there are no positions of statements. -/
theorem map_of_blamed {active : List String} {plans : List Plan} {error : CompileError}
    (blamed : Blamed config active plans error) (positions : Nat → Nat) :
    error.map id Var.next positions = error.map id Var.next id := by
  cases error with
  | testCase error =>
    -- What may be refused is only an element of an array.
    have ofElement : error.ofElement = true := blamed
    cases error <;> first | rfl | cases ofElement
  | _ => rfl

/-- A test that goes on from a leaf is faithful to its plans and the leaf. -/
theorem compileTest_faithful_from_leaf {sharing : Sharing} {method : MethodReference}
    {parameters : Parameters} (onlyRead : OnlyRead sharing parameters.roots leaf value)
    {ready after : Session} {built : CompiledTest}
    (ran : compile config leaf ({ loader } : Session) = .ok () ready)
    (running : ready.terminated = false)
    (compiled : compileTest sharing config method parameters ready = .ok built after) :
    ∃ origins, Faithful ⟨config, loader, leaf :: parameters.roots⟩ (parameters.testCall method)
      built origins := by
  have consistent : Setting.Consistent ⟨config, loader, leaf :: parameters.roots⟩ :=
    onlyRead.consistent
  -- The leaf is compiled as one more root, before all others.
  obtain ⟨_, traced, kept, first⟩ :=
    (compile_compiling consistent List.mem_cons_self).compiles .initial ran running
  refine traced.compileTest_faithful_of_roots consistent kept.active
    (List.subset_cons_self _ _) (fun root member => ?_) compiled
  rcases List.mem_cons.mp member with rfl | member
  · exact .inr (first root List.mem_cons_self)
  · exact .inl member

/--
A leaf that is only read may be inlined or compiled first: both tests succeed or both fail. The
second one has the statement of the leaf first, and then the statements of the other one, in which
other variables are declared one later and the variable of the leaf takes the place of the operands
that stand for it; a failure is the same but for variables, which are declared one later.
-/
theorem compileTest_behind_leaf (sharing : Sharing) (config : CompilerConfig)
    (method : MethodReference) (parameters : Parameters) (leaf : Plan) (value : Constant)
    (loader : Loader)
    (loads : ∃ loaded after, Loader.load stringClass loader = .ok loaded after)
    (nests : config.maxDepth ≠ some 0) (onlyRead : OnlyRead sharing parameters.roots leaf value) :
    ∃ ready, compile config leaf { loader } = .ok () ready ∧
      Outcomes (Compilation.Behind leaf value)
        (fun error error' => error' = error.map id Var.next id)
        (fun built built' => ∃ origins, Inlined ⟨config, loader, parameters.roots⟩
          (parameters.testCall method) leaf value origins built built')
        (compileTest sharing config method parameters { loader })
        (compileTest sharing config method parameters ready) := by
  obtain ⟨ready, ran, start⟩ := compile_leaf loads nests onlyRead.constant
  refine ⟨ready, ran, ?_⟩
  -- The two compilations correspond from where the leaf has got its variable.
  have accepted := checkNames_of_formed config onlyRead.formed
  have outcomes := compileTest_corresponds (Correspondence.behind_lawful onlyRead) method
    (twins_self fun root member => ⟨rfl, .root member⟩) onlyRead.noRoot
    (by rw [accepted]; rfl) _ _ start
  -- A failure of the test alone tells the variable of an array, but no position.
  have blamed := compileTest_ensures sharing config method parameters ({ loader } : Session)
    (Orderly.initial loader)
  generalize compileTest sharing config method parameters ({ loader } : Session) = alone,
    compiled : compileTest sharing config method parameters ready = behind at outcomes blamed ⊢
  cases outcomes with
  | ok built ended =>
    obtain ⟨session, session', related, rfl, rfl⟩ := built
    -- With the leaf as one more root the second test is faithful.
    obtain ⟨origins, faithful⟩ :=
      compileTest_faithful_from_leaf onlyRead ran start.terminated compiled
    have constant : leaf.isLeaf = true := Plan.isLeaf_of_constant? (by rw [onlyRead.constant]; rfl)
    exact .ok ⟨origins, related.built.inlined constant onlyRead.consistent faithful⟩ ended
  | error same ended => exact .error (same.trans (map_of_blamed blamed.2 _)) ended

end Lower

/-- The distance of two points that are made of the same numbers. -/
def Demo.sharing : Parameters where
  receiver := some (pointFrom "p" (int "x" 1) (int "y" 2))
  arguments := [pointFrom "q" (int "y" 2) (int "x" 1)]

/-- A number that two points are made of may be inlined or compiled first. -/
theorem Lower.compileTest_behind_leaf_sharing :
    ∃ (ready : Session) (built built' : CompiledTest) (after after' : Session),
      compile {} (Demo.int "x" 1) { loader := Demo.loader [] } = .ok () ready ∧
      compileTest .none {} Demo.pointDistance Demo.sharing { loader := Demo.loader [] }
        = .ok built after ∧
      compileTest .none {} Demo.pointDistance Demo.sharing ready = .ok built' after' ∧
      ∃ origins, Inlined ⟨{}, Demo.loader [], Demo.sharing.roots⟩
        (Demo.sharing.testCall Demo.pointDistance) (Demo.int "x" 1) (.int 1) origins built
          built' := by
  have onlyRead : OnlyRead .none Demo.sharing.roots (Demo.int "x" 1) (.int 1) := {
    formed := exists_ok_of_isOk (by decide +kernel)
    reachable := .operand (.root List.mem_cons_self) List.mem_cons_self
    constant := rfl
    noRoot := by decide +kernel }
  have loads : ∃ loaded after, Loader.load stringClass (Demo.loader []) = .ok loaded after :=
    exists_ok_of_run' (by decide +kernel)
  obtain ⟨ready, ran, outcomes⟩ := compileTest_behind_leaf .none {} Demo.pointDistance Demo.sharing
    (Demo.int "x" 1) (.int 1) (Demo.loader []) loads (by decide) onlyRead
  obtain ⟨built, after, alone⟩ : ∃ built after,
      compileTest .none {} Demo.pointDistance Demo.sharing ({ loader := Demo.loader [] } : Session)
        = .ok built after :=
    exists_ok_of_run' (by decide +kernel)
  rw [alone] at outcomes
  obtain ⟨built', after', behind, related, -⟩ := outcomes.exists_ok
  exact ⟨ready, built, built', after, after', ran, alone, behind, related⟩

end TestPlan
