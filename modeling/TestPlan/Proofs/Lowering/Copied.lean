import TestPlan.Demo.Plans
import TestPlan.Proofs.Lowering.CorrespondingPlans
import TestPlan.Proofs.Lowering.Reloaded
import TestPlan.Proofs.Plan.Copies

/-!
Copies of a plan may be exchanged: the same test is compiled, but for the signs of zeros, which
are those of the copy that is compiled first.
-/

namespace TestPlan

open List (Forall₂)

/-! ### Tests but for the signs of zeros -/

/-- The constant, without its sign when it is a zero. -/
def Constant.unsigned : Constant → Constant
  | .float x => .float x.unsigned
  | .double x => .double x.unsigned
  | value => value

/-- The operand, without its sign when it is a zero. -/
def Operand.unsigned : Operand → Operand
  | .var source => .var source
  | .constant value => .constant value.unsigned

/-- The statement without the signs of zeros. -/
def Statement.unsigned : Statement → Statement
  | .constructor handle args result => .constructor handle (args.map Operand.unsigned) result
  | .method handle callee args result =>
    .method handle (callee.map Operand.unsigned) (args.map Operand.unsigned) result
  | .reflection helper args result => .reflection helper (args.map Operand.unsigned) result
  | .constant value result => .constant value.unsigned result
  | .null result => .null result
  | .fieldRead field owner result => .fieldRead field (owner.map Operand.unsigned) result
  | .assignment target value => .assignment target value.unsigned
  | .newArray length result => .newArray length result

/-- The test case without the signs of zeros. -/
def TestCase.unsigned (test : TestCase) : TestCase :=
  { test with statements := test.statements.map Statement.unsigned }

/-- The test with its bindings, without the signs of zeros. -/
def CompiledTest.unsigned (built : CompiledTest) : CompiledTest :=
  { built with test := built.test.unsigned }

/-- The compilation without the signs of zeros. -/
def Compilation.unsigned {ρ : Type} (session : Compilation ρ) : Compilation ρ :=
  { session with test := session.test.unsigned }

/-- Constants without their signs are of the same primitive type. -/
theorem Constant.primitive?_unsigned (value : Constant) :
    value.unsigned.primitive? = value.primitive? := by
  cases value <;> rfl

/-- A literal without its sign stands for the constant without its sign. -/
theorem Literal.constant?_unsigned (value : Literal) :
    value.unsigned.constant? = value.constant?.map Constant.unsigned := by
  cases value <;> rfl

/-- Literals that resemble each other stand for constants that agree but for signs, if for any. -/
theorem Literal.Resembles.constant? {value value' : Literal} (resembles : value.Resembles value') :
    Option.Rel (fun constant constant' : Constant => constant'.unsigned = constant.unsigned)
      value.constant? value'.constant? := by
  have same : value'.constant?.map Constant.unsigned = value.constant?.map Constant.unsigned := by
    rw [← constant?_unsigned, ← constant?_unsigned, resembles]
  -- A literal that stands for no constant resembles no other one that stands for one.
  cases found : value.constant? <;> cases found' : value'.constant? <;> rw [found, found'] at same
  · exact .none
  · cases same
  · cases same
  · exact .some (Option.some.inj same)

/-! ### Statements -/

/-- Operands that agree one by one but for the signs of zeros. -/
theorem StandAll.map_unsigned {slots : List (Option Plan)} {operands operands' : List Operand}
    (all : StandAll (fun _ operand operand' => operand'.unsigned = operand.unsigned) slots operands
      operands') : operands'.map Operand.unsigned = operands.map Operand.unsigned := by
  induction all with
  | nil => rfl
  | cons same _ ih => rw [List.map_cons, List.map_cons, same, ih]

/-- An operand that may be absent agrees with another one but for the signs of zeros. -/
theorem StandAll.optionMap_unsigned {slots : List (Option Plan)} {operand operand' : Option Operand}
    (all : StandAll (fun _ operand operand' => operand'.unsigned = operand.unsigned) slots
      operand.toList operand'.toList) :
    operand'.map Operand.unsigned = operand.map Operand.unsigned := by
  have same := all.map_unsigned
  rw [← Option.toList_map, ← Option.toList_map] at same
  exact TestPlan.eq_of_toList same

namespace Statement

/-- Statements that correspond in such constants and operands agree but for the signs of zeros. -/
theorem Corresponds.unsigned {slots : List (Option Plan)} {statement statement' : Statement}
    (corresponds : statement.Corresponds id
      (fun constant constant' => constant'.unsigned = constant.unsigned)
      (fun _ operand operand' => operand'.unsigned = operand.unsigned) slots statement') :
    statement'.unsigned = statement.unsigned := by
  cases corresponds with
  | constant result same => rw [Statement.unsigned, same, Statement.unsigned, id]
  | twins twins =>
    cases twins with
    | constructor _ _ args | reflection _ _ args =>
      rw [Statement.unsigned, Statement.unsigned, args.map_unsigned, Option.map_id_fun, id]
    | method _ _ callee args =>
      rw [Statement.unsigned, Statement.unsigned, callee.optionMap_unsigned, args.map_unsigned,
        Option.map_id_fun, id]
    | fieldRead _ _ owner =>
      rw [Statement.unsigned, Statement.unsigned, owner.optionMap_unsigned, id]
    | element _ _ value => rw [Statement.unsigned, Statement.unsigned, value, id]
    | field _ _ value =>
      rw [Statement.unsigned, Statement.unsigned, value, Option.map_id_fun, id]
    | constant | null | newArray => rfl

/-- The variable that is read does not depend on the signs of zeros. -/
theorem filterMap_var?_unsigned (operands : List Operand) :
    (operands.map Operand.unsigned).filterMap Operand.var? = operands.filterMap Operand.var? := by
  rw [List.filterMap_map]
  exact List.filterMap_congr fun operand _ => by cases operand <;> rfl

/-- What is read does not depend on the signs of zeros. -/
theorem uses_unsigned (statement : Statement) : statement.unsigned.uses = statement.uses := by
  cases statement with
  | constructor _ args _ | reflection _ args _ => exact filterMap_var?_unsigned args
  | method _ callee args _ =>
    rw [unsigned, uses, Option.toList_map, ← List.map_append, filterMap_var?_unsigned, uses]
  | fieldRead _ owner _ =>
    rw [unsigned, uses, Option.toList_map, filterMap_var?_unsigned, uses]
  | assignment target value => cases target <;> cases value <;> rfl
  | constant | null | newArray => rfl

/-- What is defined does not depend on the signs of zeros. -/
theorem defines_unsigned (statement : Statement) :
    statement.unsigned.defines = statement.defines := by
  cases statement <;> rfl

end Statement

/-! ### Tests -/

namespace TestCase

/-- A statement is accepted, or refused, whatever the signs of zeros. -/
theorem append_unsigned (test : TestCase) (statement : Statement) :
    test.unsigned.append statement.unsigned = (test.append statement).map unsigned := by
  have use : ∀ var, test.unsigned.checkUse var = test.checkUse var := by
    intro var
    simp only [checkUse, size, unsigned, List.length_map]
    rfl
  have target : test.unsigned.checkTarget statement.unsigned = test.checkTarget statement := by
    cases statement with
    | assignment target value => cases target <;> rfl
    | _ => rfl
  have result : test.unsigned.defineResult statement.unsigned = test.defineResult statement := by
    have allocated : allocatedLength statement.unsigned = allocatedLength statement := by
      cases statement <;> rfl
    simp only [defineResult, statement.defines_unsigned, allocated, size, unsigned, List.length_map]
    rfl
  simp only [append, statement.uses_unsigned, funext use, target, result]
  -- The checks are made in order, and the first one that fails decides.
  cases statement.uses.forM test.checkUse with
  | error error => rfl
  | ok =>
    cases test.checkTarget statement with
    | error error => rfl
    | ok =>
      cases test.defineResult statement with
      | error error => rfl
      | ok declared => simp [unsigned, Bind.bind, Except.bind, Pure.pure, Except.pure, Except.map]

/-- A variable is declared whatever the signs of zeros. -/
theorem declare_unsigned (test : TestCase) (type : RuntimeType) :
    test.unsigned.declare type = ((test.declare type).1, (test.declare type).2.unsigned) :=
  rfl

/-- The type of an operand does not depend on the signs of zeros. -/
theorem operandTypeName?_unsigned (test : TestCase) (operand : Operand) :
    test.unsigned.operandTypeName? operand.unsigned = test.operandTypeName? operand := by
  cases operand with
  | var source => rfl
  | constant value => cases value <;> rfl

end TestCase

/-! ### Corresponding compilations -/

section Correspondence

variable {ρ : Type}

/-- Compilations of plans that agree but for the signs of zeros. -/
def Correspondence.upToZeros : Correspondence ρ where
  names := id
  vars := id
  positions := id
  loaders := Eq
  states session session' :=
    ∃ test', test'.unsigned = session.test.unsigned ∧ session' = { session with test := test' }
  plans := Plan.Resembles
  literals := Literal.Resembles
  constants constant constant' := constant'.unsigned = constant.unsigned
  common _ := True
  stands _ operand operand' := operand'.unsigned = operand.unsigned

/-- Compilations of plans that agree but for the signs of zeros correspond. -/
theorem Correspondence.upToZeros_lawful [ClassLoading ρ] :
    (upToZeros : Correspondence ρ).Lawful where
  injective := Function.injective_id
  same := ⟨fun _ => .self _, fun _ same => same ▸ rfl⟩
  twins := fun ⟨name, twins⟩ => ⟨name, twins⟩
  asInt? {value value'} same := by
    rw [← value'.asInt?_unsigned, same, value.asInt?_unsigned]
  constant? same := same.constant?
  primitive? {value value'} same := by
    rw [← value'.primitive?_unsigned, same, value.primitive?_unsigned]
  stands _ operand _ := by cases operand <;> rfl
  constants _ _ _ same _ := congrArg Operand.constant same
  -- Nothing but the statements depends on signs.
  loader := by
    rintro session _ ⟨test', same, rfl⟩
    rfl
  reload := by
    rintro session _ loader _ ⟨test', same, rfl⟩ rfl
    exact ⟨test', same, rfl⟩
  active := by
    rintro session _ ⟨test', same, rfl⟩
    exact (List.map_id _).symm
  activate := by
    rintro session _ active ⟨test', same, rfl⟩
    exact ⟨test', same, by rw [upToZeros, List.map_id]⟩
  terminated := by
    rintro session _ ⟨test', same, rfl⟩
    rfl
  terminate := by
    rintro session _ ⟨test', same, rfl⟩
    exact ⟨test', same, rfl⟩
  get? := by
    rintro session _ name ⟨test', same, rfl⟩ _
    exact Option.map_id_apply.symm
  bind := by
    rintro session _ name var ⟨test', same, rfl⟩ _
    exact ⟨test', same, rfl⟩
  isCompiled := by
    rintro session _ name ⟨test', same, rfl⟩ _
    rfl
  complete := by
    rintro session _ name ⟨test', same, rfl⟩ _
    exact ⟨test', same, rfl⟩
  inline _ _ unknown := absurd trivial unknown
  declare := by
    rintro session _ type ⟨test', same, rfl⟩
    have both := congrArg (TestCase.declare · type) same
    simp only [TestCase.declare_unsigned, Prod.mk.injEq] at both
    exact ⟨both.1, _, both.2, rfl⟩
  append := by
    rintro session _ slots statement statement' ⟨test', same, rfl⟩ corresponds
    have appended : (test'.append statement').map TestCase.unsigned
        = (session.test.append statement).map TestCase.unsigned := by
      rw [← TestCase.append_unsigned, ← TestCase.append_unsigned, same, corresponds.unsigned]
    -- Both statements are accepted, or both are refused with the same error.
    dsimp only
    generalize session.test.append statement = added, test'.append statement' = added'
      at appended ⊢
    cases added with
    | ok test =>
      cases added' with
      | ok after => exact .ok ⟨after, Except.ok.inj appended, rfl⟩
      | error => cases appended
    | error error =>
      cases added' with
      | ok => cases appended
      | error error' => exact .error ((Except.error.inj appended).trans error.map_id.symm)
  typeName := by
    rintro session _ slot operand operand' ⟨test', same, rfl⟩ stands
    rw [← TestCase.operandTypeName?_unsigned, same, stands, TestCase.operandTypeName?_unsigned]

end Correspondence

/-! ### Tests of copies -/

variable {ρ : Type} [ClassLoading ρ]

/-- Tests of plans that agree but for the signs of zeros agree but for these signs. -/
theorem Lower.compileTest_resembles {sharing sharing' : Sharing} (config : CompilerConfig)
    (method : MethodReference) {parameters parameters' : Parameters} (session : Compilation ρ)
    (formed : ∃ graph, PlanGraph.ofRoots sharing parameters.roots = .ok graph)
    (formed' : ∃ graph, PlanGraph.ofRoots sharing' parameters'.roots = .ok graph)
    (resembles : parameters.Twins Plan.Resembles parameters') :
    Outcomes (fun after after' => after'.unsigned = after.unsigned) Eq
      (fun built built' => built'.unsigned = built.unsigned)
      (compileTest sharing config method parameters session)
      (compileTest sharing' config method parameters' session) := by
  have checked : checkNames sharing' config parameters'
      = (checkNames sharing config parameters).mapError (CompileError.map id id id) := by
    rw [checkNames_of_formed config formed, checkNames_of_formed config formed']
    rfl
  have outcomes := compileTest_corresponds Correspondence.upToZeros_lawful method resembles
    (fun _ _ => trivial) checked session session ⟨session.test, rfl, rfl⟩
  generalize compileTest sharing config method parameters session = ran,
    compileTest sharing' config method parameters' session = ran' at outcomes ⊢
  -- Compilations that differ in the signs of their tests are the same without these.
  have unsigned : ∀ {session session' : Compilation ρ},
      Correspondence.upToZeros.states session session' →
        session'.unsigned = session.unsigned := by
    rintro session _ ⟨test', same, rfl⟩
    exact congrArg (fun test => { session with test }) same
  cases outcomes with
  | ok built ended =>
    obtain ⟨_, _, related, rfl, rfl⟩ := built
    exact .ok (congrArg Compilation.compiled (unsigned related)) (unsigned ended)
  | error same ended => exact .error (same.trans (CompileError.map_id _)).symm (unsigned ended)

/--
Plans of one name may replace each other, at any depth, in parameters that are accepted. If the
copies are shared like the plans that they replace, they are accepted again, and the same test with
the same bindings is compiled, or the same failure occurs, but for the signs of zeros. When literals
of one name are the same, nothing is changed at all.
-/
theorem compileTest_copied (sharing sharing' : Sharing) (config : CompilerConfig)
    (method : MethodReference) (parameters parameters' : Parameters) (session : Compilation ρ)
    (graph : PlanGraph) (consistent : PlanGraph.ofRoots sharing parameters.roots = .ok graph)
    (shared : sharing.Copied parameters.roots sharing')
    (copied : parameters.Twins (Plan.Copied parameters.roots) parameters') :
    (∃ graph', PlanGraph.ofRoots sharing' parameters'.roots = .ok graph') ∧
      Outcomes (fun after after' => after'.unsigned = after.unsigned) Eq
        (fun built built' => built'.unsigned = built.unsigned)
        (Lower.compileTest sharing config method parameters session)
        (Lower.compileTest sharing' config method parameters' session) ∧
      (LiteralsAgree parameters.roots → Lower.compileTest sharing' config method parameters' session
        = Lower.compileTest sharing config method parameters session) := by
  have resembles : parameters.Twins Plan.Resembles parameters' :=
    copied.imp fun _ _ copied => copied.resembles consistent
  have formed := PlanGraph.exists_ofRoots_of_copied consistent shared copied.roots
  refine ⟨formed, Lower.compileTest_resembles config method session ⟨graph, consistent⟩ formed
    resembles, fun agree => ?_⟩
  -- With the same literals copies are the plans that they replace, and both are accepted.
  obtain rfl := (copied.imp fun _ _ copied => (copied.eq consistent agree).symm).eq
  simp only [Lower.compileTest, Lower.checkNames_of_formed config formed,
    Lower.checkNames_of_formed config ⟨graph, consistent⟩]

/-- A zero that is prepared twice before the settings are reset, first with the given bits. -/
def Demo.zeros (bits : UInt32) : Parameters where
  statics := [.mk "z" (.primitive (.float ⟨bits⟩)), .mk "z" (.primitive (.float ⟨0x80000000⟩))]

/-- The first zero may be replaced by the second one, which is of the other sign. -/
theorem Demo.zeros_copied :
    (zeros 0).Twins (Plan.Copied (zeros 0).roots) (zeros 0x80000000) where
  receiver := .nil
  arguments := .nil
  statics := by
    have first : Reachable (zeros 0).roots (.mk "z" (.primitive (.float ⟨0⟩))) :=
      .root List.mem_cons_self
    have second : Reachable (zeros 0).roots (.mk "z" (.primitive (.float ⟨0x80000000⟩))) :=
      .root (List.mem_cons_of_mem _ List.mem_cons_self)
    exact .cons (.copy first second rfl) (.cons (.copy second second rfl) .nil)

/-- Zeros of one sign are the same. -/
theorem Demo.zeros_agree : LiteralsAgree (zeros 0x80000000).roots := by
  have only : ∀ plan, Reachable (zeros 0x80000000).roots plan →
      plan.kind = .primitive (.float ⟨0x80000000⟩) := by
    intro plan reachable
    -- Zeros have no operands, so that nothing but them is reachable.
    have member := reachable.mem_of_closed _ (List.Subset.refl _) (by
      simp [zeros, Parameters.roots, Plan.operands, PlanKind.operands, Plan.kind])
    simp only [zeros, Parameters.roots, Option.toList_none, List.nil_append, List.mem_cons,
      List.not_mem_nil, or_false, or_self] at member
    rw [member, Plan.kind]
  intro plan plan' value value' reachable reachable' _ kind kind'
  rw [only plan reachable] at kind
  rw [only plan' reachable'] at kind'
  cases kind
  cases kind'
  rfl

/--
With a zero replaced by one of the other sign the same test is compiled but for the sign, and with
zeros of one sign nothing is changed.
-/
theorem compileTest_copied_zeros :
    ∃ (graph graph' : PlanGraph) (built built' : CompiledTest) (after after' : Session),
      PlanGraph.ofRoots .none (Demo.zeros 0).roots = .ok graph ∧
      (Demo.zeros 0).Twins (Plan.Copied (Demo.zeros 0).roots) (Demo.zeros 0x80000000) ∧
      PlanGraph.ofRoots .none (Demo.zeros 0x80000000).roots = .ok graph' ∧
      Lower.compileTest .none {} Demo.settingsReset (Demo.zeros 0) { loader := Demo.loader [] }
        = .ok built after ∧
      Lower.compileTest .none {} Demo.settingsReset (Demo.zeros 0x80000000)
        { loader := Demo.loader [] } = .ok built' after' ∧
      built'.unsigned = built.unsigned ∧
      ∀ parameters,
        (Demo.zeros 0x80000000).Twins (Plan.Copied (Demo.zeros 0x80000000).roots) parameters →
          Lower.compileTest .none {} Demo.settingsReset parameters { loader := Demo.loader [] }
            = .ok built' after' := by
  obtain ⟨graph, consistent⟩ : ∃ graph, PlanGraph.ofRoots .none (Demo.zeros 0).roots = .ok graph :=
    exists_ok_of_isOk (by decide +kernel)
  obtain ⟨built, after, ran⟩ : ∃ built after,
      Lower.compileTest .none {} Demo.settingsReset (Demo.zeros 0)
        ({ loader := Demo.loader [] } : Session) = .ok built after :=
    exists_ok_of_run' (by decide +kernel)
  obtain ⟨⟨graph', consistent'⟩, outcomes, -⟩ := compileTest_copied .none .none {}
    Demo.settingsReset (Demo.zeros 0) (Demo.zeros 0x80000000)
    ({ loader := Demo.loader [] } : Session) graph consistent (Sharing.none_copied consistent)
    Demo.zeros_copied
  rw [ran] at outcomes
  obtain ⟨built', after', ran', same, -⟩ := outcomes.exists_ok
  refine ⟨graph, graph', built, built', after, after', consistent, Demo.zeros_copied, consistent',
    ran, ran', same, fun parameters copied => ?_⟩
  rw [← ran']
  exact (compileTest_copied .none .none {} Demo.settingsReset (Demo.zeros 0x80000000) parameters
    ({ loader := Demo.loader [] } : Session) graph' consistent'
    (Sharing.none_copied consistent') copied).2.2 Demo.zeros_agree

/-- The sign of the zero that is compiled changes when a copy of the other sign replaces it. -/
theorem compileTest_copied_signs :
    ∃ (graph : PlanGraph) (built built' : CompiledTest) (after after' : Session),
      PlanGraph.ofRoots .none (Demo.zeros 0).roots = .ok graph ∧
      (Demo.zeros 0).Twins (Plan.Copied (Demo.zeros 0).roots) (Demo.zeros 0x80000000) ∧
      Lower.compileTest .none {} Demo.settingsReset (Demo.zeros 0) { loader := Demo.loader [] }
        = .ok built after ∧
      Lower.compileTest .none {} Demo.settingsReset (Demo.zeros 0x80000000)
        { loader := Demo.loader [] } = .ok built' after' ∧
      built.test.statements.head? = some (.constant (.float ⟨0⟩) ⟨0⟩) ∧
      built'.test.statements.head? = some (.constant (.float ⟨0x80000000⟩) ⟨0⟩) := by
  obtain ⟨graph, consistent⟩ : ∃ graph, PlanGraph.ofRoots .none (Demo.zeros 0).roots = .ok graph :=
    exists_ok_of_isOk (by decide +kernel)
  obtain ⟨built, after, ran, positive⟩ : ∃ built after,
      Lower.compileTest .none {} Demo.settingsReset (Demo.zeros 0)
        ({ loader := Demo.loader [] } : Session) = .ok built after ∧
      decide (built.test.statements.head? = some (.constant (.float ⟨0⟩) ⟨0⟩)) = true :=
    exists_ok_of_any_run' (by decide +kernel)
  obtain ⟨built', after', ran', negative⟩ : ∃ built after,
      Lower.compileTest .none {} Demo.settingsReset (Demo.zeros 0x80000000)
        ({ loader := Demo.loader [] } : Session) = .ok built after ∧
      decide (built.test.statements.head? = some (.constant (.float ⟨0x80000000⟩) ⟨0⟩)) = true :=
    exists_ok_of_any_run' (by decide +kernel)
  exact ⟨graph, built, built', after, after', consistent, Demo.zeros_copied, ran, ran',
    of_decide_eq_true positive, of_decide_eq_true negative⟩

end TestPlan
