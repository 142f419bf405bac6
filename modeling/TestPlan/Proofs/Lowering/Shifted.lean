import TestPlan.Proofs.Lowering.Correspondence
import TestPlan.Proofs.Plan.Sameness

/-! Tests that go on alike, one of them behind the statement of a leaf that the other inlines. -/

namespace TestPlan

open List (Forall₂)

/-! ### Variables and operands behind a leaf -/

/-- The variable that is declared one later. -/
def Var.next (var : Var) : Var :=
  ⟨var.index + 1⟩

/-- What is known about a variable when its statement comes one later. -/
def Variable.next (known : Variable) : Variable :=
  { known with definedAt := known.definedAt.map Nat.succ }

/-- The variable of the leaf, which is declared before all others. -/
def leafVar : Var :=
  ⟨0⟩

/-- What is known about the variable of the leaf, whose statement comes first. -/
def leafVariable (type : RuntimeType) : Variable where
  type
  definedAt := some 0

/--
What stands for a plan behind a leaf: the variable of the leaf in place of a constant when the plan
has its name, and otherwise the same, with the variable that is declared one later. The constant is
that of a plan that is equal to the leaf, as all plans of its name are.
-/
inductive Replaced (leaf : Plan) : Option Plan → Operand → Operand → Prop
  | leaf {plan other : Plan} {value : Constant} : plan.name = leaf.name → other.Linked leaf →
      other.constant? = some value → Replaced leaf (some plan) (.constant value) (.var leafVar)
  | other {slot : Option Plan} (operand : Operand) : (∀ plan ∈ slot, plan.name ≠ leaf.name) →
      Replaced leaf slot operand (operand.map Var.next)

/-- The statement that a statement becomes behind a leaf. -/
def Statement.Behind (leaf : Plan) (slots : List (Option Plan)) (statement statement' : Statement) :
    Prop :=
  statement.Twins Var.next (Replaced leaf) slots statement'

/--
A test that has the statement of a leaf first, and then goes on like another test. Which plans the
operands of a statement stand for is left open here, and told by where the statement comes from.
-/
structure TestCase.Behind (leaf : Plan) (value : Constant) (test test' : TestCase) : Prop where
  statements : ∃ rest, test'.statements = .constant value leafVar :: rest ∧
    Forall₂ (fun statement statement' => ∃ slots, statement.Behind leaf slots statement')
      test.statements rest
  declared : ∃ type, type.typeName = value.typeName ∧
    test'.declared = leafVariable type :: test.declared.map Variable.next

/-- Equal literals are of one primitive type. -/
theorem Literal.primitive?_of_same {value other : Literal} (same : value.same other = true) :
    value.primitive? = other.primitive? := by
  unfold Literal.same at same
  split at same
  · rfl
  · rfl
  · rw [beq_iff_eq.mp same]

/-- The constant of a literal is of its type. -/
theorem Literal.typeName_constant? {value : Literal} {constant : Constant}
    (found : value.constant? = some constant) :
    constant.typeName = (value.primitive?.map Primitive.keyword).getD "" := by
  cases value <;> cases found <;> rfl

/-- Equal plans that stand for constants stand for constants of one type. -/
theorem Plan.Linked.typeName_constant? {plan other : Plan} (linked : plan.Linked other)
    {value value' : Constant} (constant : plan.constant? = some value)
    (constant' : other.constant? = some value') : value.typeName = value'.typeName := by
  rcases linked.eq_or_same with rfl | same
  · rw [Option.some.inj (constant.symm.trans constant')]
  · obtain ⟨name, kind⟩ := plan
    obtain ⟨name', kind'⟩ := other
    have twins := (same_iff_twins.mp same).2
    simp only [Plan.kind] at twins
    cases twins with
    | primitive equal =>
      rw [Literal.typeName_constant? constant, Literal.typeName_constant? constant',
        Literal.primitive?_of_same equal]
    | text text => rw [Option.some.inj (constant.symm.trans constant')]
    | actions | reflection | testCall | mock | unknown => cases constant

/-- Variables that are read behind a leaf: its own, and those that are declared one later. -/
inductive ReadBehind : List Var → List Var → Prop
  | nil : ReadBehind [] []
  | leaf {vars vars' : List Var} : ReadBehind vars vars' → ReadBehind vars (leafVar :: vars')
  | next (var : Var) {vars vars' : List Var} : ReadBehind vars vars' →
      ReadBehind (var :: vars) (var.next :: vars')

namespace ReadBehind

variable {leaf : Plan}

/-- The variables among operands are read behind the leaf. -/
theorem of_standAll {slots : List (Option Plan)} {operands operands' : List Operand}
    (all : StandAll (Replaced leaf) slots operands operands') :
    ReadBehind (operands.filterMap Operand.var?) (operands'.filterMap Operand.var?) := by
  induction all with
  | nil => exact .nil
  | @cons _ _ operand _ _ _ replaced _ ih =>
    -- The constant of the leaf reads nothing, while its variable is read.
    cases replaced with
    | leaf => exact .leaf ih
    | other =>
      cases operand with
      | var source => exact .next source ih
      | constant value => exact ih

/-- The variable of an operand is read behind the leaf. -/
theorem of_replaced {slot : Option Plan} {operand operand' : Operand}
    (replaced : Replaced leaf slot operand operand') :
    ReadBehind operand.var?.toList operand'.var?.toList := by
  have all := of_standAll (.cons replaced .nil)
  cases operand <;> cases operand' <;> exact all

end ReadBehind

namespace Statement.Behind

variable {leaf : Plan} {slots : List (Option Plan)} {statement statement' : Statement}

/-- A statement reads its variables behind the leaf. -/
theorem uses (behind : statement.Behind leaf slots statement') :
    ReadBehind statement.uses statement'.uses := by
  cases behind with
  | constructor _ _ args | reflection _ _ args => exact .of_standAll args
  | method _ _ callee args => exact .of_standAll (callee.append args)
  | fieldRead _ _ owner => exact .of_standAll owner
  | element array _ value => exact .next array (.of_replaced value)
  | field _ owner value =>
    cases owner with
    | none => exact .of_replaced value
    | some owner => exact .next owner (.of_replaced value)
  | constant | null | newArray => exact .nil

/-- A statement defines the variable that is declared one later. -/
theorem defines (behind : statement.Behind leaf slots statement') :
    statement'.defines = statement.defines.map Var.next := by
  cases behind <;> rfl

/-- A statement allocates as many elements. -/
theorem allocatedLength (behind : statement.Behind leaf slots statement') :
    TestCase.allocatedLength statement' = TestCase.allocatedLength statement := by
  cases behind <;> rfl

end Statement.Behind

/-! ### Checks behind a leaf -/

/-- Lists that are related one by one are related at every position. -/
theorem rel_getElem?_of_forall₂ {α β : Type} {related : α → β → Prop} {values : List α}
    {others : List β} (all : Forall₂ related values others) (position : Nat) :
    Option.Rel related values[position]? others[position]? := by
  induction all generalizing position with
  | nil => exact .none
  | cons first _ ih =>
    cases position with
    | zero => exact .some first
    | succ position => exact ih position

/-- A refusal of a statement behind a leaf. -/
def TestCaseError.next (error : TestCaseError) : TestCaseError :=
  error.map Var.next Nat.succ

namespace TestCase.Behind

variable {leaf : Plan} {value : Constant} {test test' : TestCase} {slots : List (Option Plan)}
  {statement statement' : Statement} (behind : test.Behind leaf value test')

include behind

/-- There is one statement more. -/
theorem size_eq : test'.size = test.size + 1 := by
  obtain ⟨rest, same, all⟩ := behind.statements
  rw [size, size, same, List.length_cons, all.length_eq]

/-- Every statement is behind the leaf one later, and no other statement is. -/
theorem rel_statements (position : Nat) :
    Option.Rel (fun statement statement' => ∃ slots, statement.Behind leaf slots statement')
      test.statements[position]? test'.statements[position + 1]? := by
  obtain ⟨rest, same, all⟩ := behind.statements
  rw [same, List.getElem?_cons_succ]
  exact rel_getElem?_of_forall₂ all position

/-- What is known of a variable is known of that which is declared one later. -/
theorem info?_next (var : Var) : test'.info? var.next = (test.info? var).map Variable.next := by
  obtain ⟨type, _, same⟩ := behind.declared
  rw [info?, info?, same, Var.next, List.getElem?_cons_succ, List.getElem?_map]

/-- The variable of the leaf has a type of the name that its constant has. -/
theorem info?_leafVar : ∃ type, type.typeName = value.typeName ∧
    test'.info? leafVar = some (leafVariable type) := by
  obtain ⟨type, named, same⟩ := behind.declared
  exact ⟨type, named, by rw [info?, same]; rfl⟩

/-- A variable may be read when that which is declared one later may be read. -/
theorem checkUse_next (var : Var) :
    test'.checkUse var.next = (test.checkUse var).mapError TestCaseError.next := by
  simp only [checkUse, behind.info?_next, behind.size_eq]
  cases test.info? var with
  | none => rfl
  | some known => rcases known with ⟨type, _ | position, length⟩ <;> rfl

/-- The variable of the leaf may be read. -/
theorem checkUse_leafVar : test'.checkUse leafVar = .ok () := by
  obtain ⟨type, _, known⟩ := behind.info?_leafVar
  simp only [checkUse, known]
  rfl

/-- Variables may be read when they may be read behind the leaf. -/
theorem forM_checkUse {vars vars' : List Var} (read : ReadBehind vars vars') :
    vars'.forM test'.checkUse = (vars.forM test.checkUse).mapError TestCaseError.next := by
  -- The variable of the leaf may always be read, so a refusal is that of another variable.
  induction read with
  | nil => rfl
  | leaf _ ih =>
    simp only [List.forM, behind.checkUse_leafVar]
    exact ih
  | next var _ ih =>
    simp only [List.forM, behind.checkUse_next]
    cases test.checkUse var with
    | ok => exact ih
    | error error => rfl

/-- An element may be assigned when it may be assigned behind the leaf. -/
theorem checkIndex_next (array : Var) (index : Nat) :
    test'.checkIndex array.next index
      = (test.checkIndex array index).mapError TestCaseError.next := by
  simp only [checkIndex, behind.info?_next]
  cases test.info? array with
  | none => rfl
  | some known =>
    simp only [Option.map_some, Variable.next]
    split
    · rfl
    · split
      · split <;> rfl
      · rfl

/-- The target of a statement is checked alike. -/
theorem checkTarget_eq (twins : statement.Behind leaf slots statement') :
    test'.checkTarget statement' = (test.checkTarget statement).mapError TestCaseError.next := by
  cases twins with
  | element array index _ => exact behind.checkIndex_next array index
  | _ => rfl

/-- The result of a statement is defined alike, one statement later. -/
theorem defineResult_eq (twins : statement.Behind leaf slots statement') :
    ∃ type, type.typeName = value.typeName ∧
      test'.defineResult statement' =
        match test.defineResult statement with
        | .ok declared => .ok (leafVariable type :: declared.map Variable.next)
        | .error error => .error error.next := by
  obtain ⟨type, named, same⟩ := behind.declared
  refine ⟨type, named, ?_⟩
  simp only [defineResult, twins.defines, twins.allocatedLength]
  -- Positions of statements are one later, like the variables.
  cases statement.defines with
  | none => exact congrArg _ same
  | some var =>
    simp only [Option.map_some, behind.info?_next]
    cases test.info? var with
    | none => rfl
    | some known =>
      rcases known with ⟨found, _ | position, length⟩
      · simp only [Option.map_some, Variable.next, Option.map_none, same, behind.size_eq, Var.next,
          List.set_cons_succ, List.map_set]
      · rfl

/-- A statement is appended behind the leaf when it is appended, and refused alike otherwise. -/
theorem append (twins : statement.Behind leaf slots statement') :
    Answers (fun error error' => error' = error.next)
      (fun after after' => after.Behind leaf value after') (test.append statement)
      (test'.append statement') := by
  obtain ⟨type, named, defined⟩ := behind.defineResult_eq twins
  simp only [TestCase.append, behind.forM_checkUse twins.uses, behind.checkTarget_eq twins, defined]
  -- The checks are made in order, and the first one that fails decides.
  cases statement.uses.forM test.checkUse with
  | error error => exact .error rfl
  | ok =>
    cases test.checkTarget statement with
    | error error => exact .error rfl
    | ok =>
      cases test.defineResult statement with
      | error error => exact .error rfl
      | ok declared =>
        obtain ⟨rest, same, all⟩ := behind.statements
        refine .ok ⟨⟨rest ++ [statement'], ?_, ?_⟩, type, named, rfl⟩
        · rw [same, List.cons_append]
        · exact List.rel_append all (.cons ⟨slots, twins⟩ .nil)

/-- A variable is declared behind the leaf one later. -/
theorem declare (type : RuntimeType) : (test'.declare type).1 = (test.declare type).1.next ∧
    (test.declare type).2.Behind leaf value (test'.declare type).2 := by
  obtain ⟨leafType, named, same⟩ := behind.declared
  refine ⟨?_, behind.statements, leafType, named, ?_⟩
  · simp [TestCase.declare, same, Var.next]
  · simp [TestCase.declare, same, Variable.next]

/-- Operands that stand for one plan are of types of one name. -/
theorem operandTypeName?_eq (constant : leaf.constant? = some value) {slot : Option Plan}
    {operand operand' : Operand} (replaced : Replaced leaf slot operand operand') :
    test'.operandTypeName? operand' = test.operandTypeName? operand := by
  cases replaced with
  | leaf _ linked found =>
    -- The declared type of the variable has the name of the type that the constant has.
    obtain ⟨type, named, known⟩ := behind.info?_leafVar
    simp only [operandTypeName?, typeOf?, known, Option.map_some, leafVariable, named,
      linked.typeName_constant? found constant]
  | other operand =>
    cases operand with
    | constant value => rfl
    | var source =>
      simp only [Operand.map, operandTypeName?, typeOf?, behind.info?_next, Option.map_map]
      rfl

end TestCase.Behind

/-! ### Bindings behind a leaf -/

/-- Bindings in which a leaf comes first, and other bindings with variables declared one later. -/
structure Bindings.Behind (leaf : Plan) (bindings bindings' : Bindings) : Prop where
  bound : bindings'.bound = (leaf.name, leafVar) :: bindings.bound.map (Prod.map id Var.next)
  completed : bindings'.completed = bindings.completed ++ [leaf.name]
  unbound : bindings.get? leaf.name = none

namespace Bindings.Behind

variable {leaf : Plan} {bindings bindings' : Bindings} (behind : bindings.Behind leaf bindings')

include behind

/-- The leaf is bound to its variable. -/
theorem get?_leaf : bindings'.get? leaf.name = some leafVar := by
  rw [get?, behind.bound, List.lookup_cons_self]

section Others

variable {name : String} (other : name ≠ leaf.name)

include other

/-- Other names are bound to the variables that are declared one later. -/
theorem get?_of_ne : bindings'.get? name = (bindings.get? name).map Var.next := by
  have different : (name == leaf.name) = false := beq_eq_false_iff_ne.mpr other
  rw [get?, get?, behind.bound, List.lookup_cons, different]
  dsimp only
  induction bindings.bound with
  | nil => rfl
  | cons entry rest ih =>
    rw [List.map_cons, List.lookup_cons, List.lookup_cons, ih]
    dsimp only [Prod.map, id]
    split <;> rfl

/-- Other names are compiled alike. -/
theorem isCompiled_of_ne : bindings'.isCompiled name = bindings.isCompiled name := by
  rw [isCompiled, isCompiled, isBound, isBound, behind.get?_of_ne other, Option.isSome_map,
    behind.completed]
  simp [other]

/-- Another name may be bound. -/
theorem bind (var : Var) :
    ({ bindings with bound := bindings.bound ++ [(name, var)] } : Bindings).Behind leaf
      { bindings' with bound := bindings'.bound ++ [(name, var.next)] } where
  bound := by simp [behind.bound]
  completed := behind.completed
  unbound := by
    have unbound := behind.unbound
    rw [get?, List.lookup_eq_none_iff] at unbound ⊢
    simpa [or_imp, forall_and, other.symm] using unbound

end Others

/-- Another name may be completed. -/
theorem complete (name : String) :
    (bindings.complete name).Behind leaf (bindings'.complete name) where
  bound := behind.bound
  completed := congrArg (name :: ·) behind.completed
  unbound := behind.unbound

end Bindings.Behind

/-- A test with its bindings that has a leaf first, and then goes on like another test. -/
structure CompiledTest.Behind (leaf : Plan) (value : Constant) (built built' : CompiledTest) :
    Prop where
  test : built.test.Behind leaf value built'.test
  bindings : built.bindings.Behind leaf built'.bindings

end TestPlan
