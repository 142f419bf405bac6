import TestPlan.Lowering.Compile
import TestPlan.Proofs.Lowering.Lookups
import TestPlan.Proofs.Plan.Insertion
import TestPlan.Proofs.Plan.Sameness

/-!
Two compilations that correspond: what one does the other one does as well, under other names
and with other variables, and with other operands for some of the plans that are read.
-/

namespace TestPlan

open List (Forall₂)

/-! ### Errors under other names -/

/-- A refusal of a statement with other variables and positions. -/
def TestCaseError.map (vars : Var → Var) (positions : Nat → Nat) : TestCaseError → TestCaseError
  | .unknownVariable var => .unknownVariable (vars var)
  | .forwardReference var position => .forwardReference (vars var) (positions position)
  | .redefinition var first => .redefinition (vars var) (positions first)
  | .notAnArray var => .notAnArray (vars var)
  | .indexOutOfBounds array index length => .indexOutOfBounds (vars array) index length

/-- A failure with other names of plans, and other variables and positions of the test. -/
def CompileError.map (names : String → String) (vars : Var → Var) (positions : Nat → Nat) :
    CompileError → CompileError
  | .unsupportedPlan plan kind type => .unsupportedPlan (names plan) kind type
  | .nonLiteralIndex plan => .nonLiteralIndex (names plan)
  | .notAnArrayType plan type => .notAnArrayType (names plan) type
  | .unboundOwner plan => .unboundOwner (names plan)
  | .noValue plan => .noValue (names plan)
  | .voidResult plan method => .voidResult (names plan) method
  | .cyclicPlan plan => .cyclicPlan (names plan)
  | .duplicateBinding plan => .duplicateBinding (names plan)
  | .testCase error => .testCase (error.map vars positions)
  | .planGraph error => .planGraph (error.map names)
  | .innerClassConstructor => .innerClassConstructor
  | .enumConstantNotFound className constant => .enumConstantNotFound className constant
  | .classNotFound failure => .classNotFound failure
  | .memberNotFound className member kind => .memberNotFound className member kind
  | .depthExceeded limit => .depthExceeded limit
  | .afterTestCall => .afterTestCall

/-- What the classes lack has nothing to do with plans. -/
theorem CompileError.map_of_mismatch {names : String → String} {vars : Var → Var}
    {positions : Nat → Nat} {error : CompileError} (mismatch : error.isClassModelMismatch = true) :
    error.map names vars positions = error := by
  cases error <;> first | rfl | cases mismatch

/-! ### Operands and the plans they stand for -/

/-- Operands that are related one by one, given the plans that they stand for. -/
inductive StandAll (stands : Option Plan → Operand → Operand → Prop) :
    List (Option Plan) → List Operand → List Operand → Prop
  | nil : StandAll stands [] [] []
  | cons {slot : Option Plan} {slots : List (Option Plan)} {operand operand' : Operand}
      {operands operands' : List Operand} : stands slot operand operand' →
      StandAll stands slots operands operands' →
        StandAll stands (slot :: slots) (operand :: operands) (operand' :: operands')

/-- An operand that reads another variable. -/
def Operand.map (vars : Var → Var) : Operand → Operand
  | .var source => .var (vars source)
  | .constant value => .constant value

/-- Statements that agree in all but their variables and their operands, which are related. -/
inductive Statement.Twins (vars : Var → Var) (stands : Option Plan → Operand → Operand → Prop) :
    List (Option Plan) → Statement → Statement → Prop
  | constructor {slots : List (Option Plan)} {args args' : List Operand}
      (handle : ConstructorHandle) (result : Option Var) : StandAll stands slots args args' →
        Twins vars stands slots (.constructor handle args result)
          (.constructor handle args' (result.map vars))
  | method {slots slots' : List (Option Plan)} {callee callee' : Option Operand}
      {args args' : List Operand} (handle : MethodHandle) (result : Option Var) :
      StandAll stands slots callee.toList callee'.toList → StandAll stands slots' args args' →
        Twins vars stands (slots ++ slots') (.method handle callee args result)
          (.method handle callee' args' (result.map vars))
  | reflection {slots : List (Option Plan)} {args args' : List Operand}
      (helper : HelperRoutine) (result : Option Var) : StandAll stands slots args args' →
        Twins vars stands slots (.reflection helper args result)
          (.reflection helper args' (result.map vars))
  | constant (value : Constant) (result : Var) :
      Twins vars stands [] (.constant value result) (.constant value (vars result))
  | null (result : Var) : Twins vars stands [] (.null result) (.null (vars result))
  | fieldRead {slots : List (Option Plan)} {owner owner' : Option Operand}
      (field : FieldHandle) (result : Var) : StandAll stands slots owner.toList owner'.toList →
        Twins vars stands slots (.fieldRead field owner result)
          (.fieldRead field owner' (vars result))
  | element {slot : Option Plan} {value value' : Operand} (array : Var) (index : Nat) :
      stands slot value value' →
        Twins vars stands [slot] (.assignment (.element array index) value)
          (.assignment (.element (vars array) index) value')
  | field {slot : Option Plan} {value value' : Operand} (field : FieldHandle)
      (owner : Option Var) : stands slot value value' →
        Twins vars stands [slot] (.assignment (.field field owner) value)
          (.assignment (.field field (owner.map vars)) value')
  | newArray (length : Nat) (result : Var) :
      Twins vars stands [] (.newArray length result) (.newArray length (vars result))

/-- Statements that correspond: they agree in all but their variables, operands and constants. -/
inductive Statement.Corresponds (vars : Var → Var) (constants : Constant → Constant → Prop)
    (stands : Option Plan → Operand → Operand → Prop) :
    List (Option Plan) → Statement → Statement → Prop
  | twins {slots : List (Option Plan)} {statement statement' : Statement} :
      statement.Twins vars stands slots statement' →
        Corresponds vars constants stands slots statement statement'
  | constant {value value' : Constant} (result : Var) : constants value value' →
      Corresponds vars constants stands [] (.constant value result)
        (.constant value' (vars result))

/-- Statements with the same constants agree in all but their variables and operands. -/
theorem Statement.Corresponds.of_eq {vars : Var → Var}
    {stands : Option Plan → Operand → Operand → Prop} {slots : List (Option Plan)}
    {statement statement' : Statement}
    (corresponds : statement.Corresponds vars Eq stands slots statement') :
    statement.Twins vars stands slots statement' := by
  cases corresponds with
  | twins twins => exact twins
  | constant result same => exact same ▸ .constant _ result

namespace StandAll

variable {stands : Option Plan → Operand → Operand → Prop} {slots slots' : List (Option Plan)}
  {operands operands' more more' : List Operand}

/-- Operands of one list may follow those of another. -/
theorem append (first : StandAll stands slots operands operands')
    (second : StandAll stands slots' more more') :
    StandAll stands (slots ++ slots') (operands ++ more) (operands' ++ more') := by
  induction first with
  | nil => exact second
  | cons related _ ih => exact .cons related ih

end StandAll

/-- A literal stands for the same constant as itself, if for any. -/
theorem Literal.rel_constant? (value : Literal) :
    Option.Rel Eq value.constant? value.constant? := by
  cases value.constant? with
  | none => exact .none
  | some constant => exact .some rfl

/-! ### Corresponding compilations -/

/-- How two compilations correspond. -/
structure Correspondence (ρ : Type) where
  /-- The name that the second compilation has for a plan. -/
  names : String → String
  vars : Var → Var
  positions : Nat → Nat
  loaders : ρ → ρ → Prop
  states : Compilation ρ → Compilation ρ → Prop
  plans : Plan → Plan → Prop
  /-- The literals that corresponding plans are of. -/
  literals : Literal → Literal → Prop
  /-- The constants that corresponding literals stand for. -/
  constants : Constant → Constant → Prop
  /-- The names of plans that both compilations treat alike. -/
  common : String → Prop
  /-- What may stand for a plan, or for none, in both compilations. -/
  stands : Option Plan → Operand → Operand → Prop

namespace Correspondence

variable {ρ : Type} (c : Correspondence ρ)

/-- The failure that the second compilation has for one of the first. -/
def errors (error error' : CompileError) : Prop :=
  error' = error.map c.names c.vars c.positions

/-- Steps that both compilations carry out, with related results. -/
def Steps {α α' : Type} (results : α → α' → Prop) (step : Lowering ρ α) (step' : Lowering ρ α') :
    Prop :=
  Parallel c.states c.errors results step step'

/-- Steps that both compilations carry out for their effect. -/
def Acts (step step' : Lowering ρ Unit) : Prop :=
  c.Steps (fun _ _ => True) step step'

/-- What makes compilations correspond: each primitive step keeps their states related. -/
structure Lawful [ClassLoading ρ] : Prop where
  injective : Function.Injective c.names
  same : SameClasses c.loaders
  twins : ∀ {plan plan'}, c.plans plan plan' →
    plan'.name = c.names plan.name ∧ plan.kind.Twins c.plans c.literals plan'.kind
  asInt? : ∀ {value value'}, c.literals value value' → value'.asInt? = value.asInt?
  constant? : ∀ {value value'}, c.literals value value' →
    Option.Rel c.constants value.constant? value'.constant?
  primitive? : ∀ {value value'}, c.constants value value' → value'.primitive? = value.primitive?
  stands : ∀ slot operand, (∀ plan ∈ slot, c.common plan.name) →
    c.stands slot operand (operand.map c.vars)
  constants : ∀ slot {value value'}, c.constants value value' →
    (∀ plan ∈ slot, c.common plan.name) → c.stands slot (.constant value) (.constant value')
  loader : ∀ {session session'}, c.states session session' →
    c.loaders session.loader session'.loader
  reload : ∀ {session session' loader loader'}, c.states session session' →
    c.loaders loader loader' → c.states { session with loader } { session' with loader := loader' }
  active : ∀ {session session'}, c.states session session' →
    session'.active = session.active.map c.names
  activate : ∀ {session session'} active, c.states session session' →
    c.states { session with active } { session' with active := active.map c.names }
  terminated : ∀ {session session'}, c.states session session' →
    session'.terminated = session.terminated
  terminate : ∀ {session session'}, c.states session session' →
    c.states { session with terminated := true } { session' with terminated := true }
  get? : ∀ {session session' name}, c.states session session' → c.common name →
    session'.bindings.get? (c.names name) = (session.bindings.get? name).map c.vars
  bind : ∀ {session session' name} var, c.states session session' → c.common name →
    c.states
      { session with bindings.bound := session.bindings.bound ++ [(name, var)] }
      { session' with bindings.bound := session'.bindings.bound ++ [(c.names name, c.vars var)] }
  isCompiled : ∀ {session session' name}, c.states session session' → c.common name →
    session'.bindings.isCompiled (c.names name) = session.bindings.isCompiled name
  complete : ∀ {session session' name}, c.states session session' → c.common name →
    c.states { session with bindings := session.bindings.complete name }
      { session' with bindings := session'.bindings.complete (c.names name) }
  /-- Only one of the compilations has a variable for a plan that they treat differently. -/
  inline : ∀ {session session' plan plan'}, c.states session session' → c.plans plan plan' →
    ¬ c.common plan.name → ∃ constant var, plan.constant? = some constant ∧
      session.bindings.get? plan.name = none ∧ session'.bindings.get? plan'.name = some var ∧
        c.stands (some plan) (.constant constant) (.var var)
  declare : ∀ {session session'} type, c.states session session' →
    (session'.test.declare type).1 = c.vars (session.test.declare type).1 ∧
      c.states { session with test := (session.test.declare type).2 }
        { session' with test := (session'.test.declare type).2 }
  append : ∀ {session session' slots statement statement'}, c.states session session' →
    statement.Corresponds c.vars c.constants c.stands slots statement' →
      Answers (fun error error' => error' = error.map c.vars c.positions)
        (fun test test' => c.states { session with test } { session' with test := test' })
        (session.test.append statement) (session'.test.append statement')
  typeName : ∀ {session session' slot operand operand'}, c.states session session' →
    c.stands slot operand operand' →
      session'.test.operandTypeName? operand' = session.test.operandTypeName? operand

end Correspondence

/-! ### Primitive steps -/

namespace Lower

variable {ρ α : Type} [ClassLoading ρ] {c : Correspondence ρ} (lawful : c.Lawful)

include lawful

/-- Both compilations find the same through their loaders. -/
theorem resolve_corresponds {lookup : Lookup ρ α} (uniform : Uniform c.loaders lookup) :
    c.Steps Eq (resolve lookup) (resolve lookup) := by
  intro session session' start
  have outcomes := uniform _ _ (lawful.loader start)
  simp only [resolve]
  generalize lookup session.loader = found, lookup session'.loader = found' at outcomes ⊢
  cases outcomes with
  | ok same related => exact .ok same (lawful.reload start related)
  | error mismatch related =>
    obtain ⟨rfl, mismatch⟩ := mismatch
    exact .error (CompileError.map_of_mismatch mismatch).symm (lawful.reload start related)

/-- Both compilations go on alike with what they find through their loaders. -/
theorem find_corresponds {β β' : Type} {results : β → β' → Prop} {lookup : Lookup ρ α}
    {next : α → Lowering ρ β} {next' : α → Lowering ρ β'} (uniform : Uniform c.loaders lookup)
    (rest : ∀ found, c.Steps results (next found) (next' found)) :
    c.Steps results (resolve lookup >>= next) (resolve lookup >>= next') :=
  Parallel.bind_eq (resolve_corresponds lawful uniform) rest

/-- Both compilations append their statement, or neither does. -/
theorem emit_corresponds {slots : List (Option Plan)} {statement statement' : Statement}
    (corresponds : statement.Corresponds c.vars c.constants c.stands slots statement') :
    c.Acts (emit statement) (emit statement') := by
  refine Parallel.get_bind fun session session' start => ?_
  have appended := lawful.append start corresponds
  dsimp only
  -- Nothing may follow the call under test, and both have come to it, or neither has.
  by_cases ended : session.terminated = true
  · have ended' : session'.terminated = true := (lawful.terminated start).trans ended
    rw [if_pos ended, if_pos ended']
    exact .error rfl start
  · have running : ¬ session'.terminated = true := (lawful.terminated start).symm ▸ ended
    rw [if_neg ended, if_neg running]
    generalize session.test.append statement = added, session'.test.append statement' = added'
      at appended ⊢
    cases appended with
    | ok related => exact .ok trivial related
    | error same => exact .error (congrArg CompileError.testCase same) start

/-- Both compilations take a new variable for the result of their statement. -/
theorem temporary_corresponds {slots : List (Option Plan)} (type : RuntimeType)
    {build build' : Var → Statement}
    (corresponds : ∀ var,
      (build var).Corresponds c.vars c.constants c.stands slots (build' (c.vars var))) :
    c.Steps (fun var var' => var' = c.vars var) (temporary type build) (temporary type build') := by
  refine Parallel.get_bind fun session session' start => ?_
  obtain ⟨same, declared⟩ := lawful.declare type start
  -- The statements are made for the variables that have just been declared.
  have emitted := emit_corresponds lawful (corresponds (session.test.declare type).1)
  rw [← same] at emitted
  have ran : c.Steps (fun var var' => var' = c.vars var)
      (do emit (build (session.test.declare type).1)
          return (session.test.declare type).1)
      (do emit (build' (session'.test.declare type).1)
          return (session'.test.declare type).1) :=
    Parallel.bind emitted fun _ _ _ => .pure same
  exact ran _ _ declared

omit [ClassLoading ρ] lawful in
/-- Both compilations go on with what is at hand, or fail with the same error. -/
theorem ofExcept_corresponds {result result' : Except CompileError α}
    (same : result' = result.mapError (CompileError.map c.names c.vars c.positions)) :
    c.Steps Eq (ofExcept result) (ofExcept result') := by
  subst same
  cases result with
  | ok value => exact .pure rfl
  | error error => exact .throw rfl

/-! ### Values of plans -/

section Owners

variable {owner : String} (own : c.common owner)

include own

/-- A plan has a value in both compilations, or in neither. -/
theorem isBound_corresponds {session session' : Compilation ρ}
    (start : c.states session session') :
    session'.bindings.isBound (c.names owner) = session.bindings.isBound owner := by
  rw [Bindings.isBound, Bindings.isBound, lawful.get? start own, Option.isSome_map]

/-- Both compilations require that a plan has no value yet. -/
theorem ensureUnbound_corresponds :
    c.Acts (ensureUnbound owner) (ensureUnbound (c.names owner)) := by
  refine Parallel.get_bind fun session session' start => ?_
  rw [isBound_corresponds lawful own start]
  split
  · exact .error rfl start
  · exact .ok trivial start

/-- Both compilations give a plan its value. -/
theorem define_corresponds {slots : List (Option Plan)} (type : RuntimeType)
    {build build' : Var → Statement}
    (corresponds : ∀ var,
      (build var).Corresponds c.vars c.constants c.stands slots (build' (c.vars var))) :
    c.Steps (fun var var' => var' = c.vars var) (define owner type build)
      (define (c.names owner) type build') := by
  refine Parallel.bind (ensureUnbound_corresponds lawful own) fun _ _ _ => ?_
  refine Parallel.bind (temporary_corresponds lawful type corresponds) ?_
  rintro var _ rfl
  refine Parallel.get_bind fun session session' start => ?_
  -- The name is checked a second time when it is bound.
  simp only [Bindings.bind, isBound_corresponds lawful own start]
  split
  · exact .error rfl start
  · exact .ok rfl (lawful.bind var start own)

/-- Both compilations append a statement whose result is the value of a plan. -/
theorem give_corresponds {slots : List (Option Plan)} (type : RuntimeType)
    {build build' : Option Var → Statement}
    (twins : ∀ var, (build (some var)).Twins c.vars c.stands slots (build' (some (c.vars var)))) :
    c.Acts (append (some (owner, type)) build) (append (some (c.names owner, type)) build') :=
  Parallel.discard (define_corresponds lawful own type fun var => .twins (twins var))

/-- Both compilations read the value of the owner, or find that it has none. -/
theorem ownerVar_corresponds :
    c.Steps (fun var var' => var' = c.vars var) (ownerVar owner) (ownerVar (c.names owner)) := by
  refine Parallel.get_bind fun session session' start => ?_
  rw [lawful.get? start own]
  cases session.bindings.get? owner with
  | none => exact .error rfl start
  | some var => exact .ok rfl start

end Owners

/-- Both compilations append a statement, whose result is the value of a plan when one is given. -/
theorem append_corresponds {slots : List (Option Plan)} (target : Option (String × RuntimeType))
    {build build' : Option Var → Statement}
    (own : ∀ name type, target = some (name, type) → c.common name)
    (twins : ∀ result, (build result).Twins c.vars c.stands slots (build' (result.map c.vars))) :
    c.Acts (append target build) (append (target.map (Prod.map c.names id)) build') := by
  match target with
  | none => exact emit_corresponds lawful (.twins (twins none))
  | some (name, type) =>
    exact give_corresponds lawful (own name type rfl) type fun var => twins (some var)

/-! ### Compiling plans -/

/-- Both compilations enter and leave a plan. -/
theorem within_corresponds (name : String) {step step' : Lowering ρ Unit}
    (acts : c.Acts step step') :
    c.Acts (within name step) (within (c.names name) step') := by
  intro session session' start
  have entered : c.states (session.enter name) (session'.enter (c.names name)) := by
    have active := lawful.activate (name :: session.active) start
    rwa [List.map_cons, ← lawful.active start] at active
  have left : ∀ {session session'}, c.states session session' →
      c.states session.leave session'.leave := by
    intro session session' start
    have active := lawful.activate session.active.tail start
    rwa [List.map_tail, ← lawful.active start] at active
  have outcomes := acts _ _ entered
  simp only [within]
  generalize step (session.enter name) = ran, step' (session'.enter (c.names name)) = ran'
    at outcomes ⊢
  cases outcomes with
  | ok _ ended => exact .ok trivial (left ended)
  | error same ended => exact .error same (left ended)

/-- Both compilations may enter a plan, or both may not. -/
theorem checkNesting_corresponds (config : CompilerConfig) (name : String) :
    c.Acts (checkNesting config name) (checkNesting config (c.names name)) := by
  refine Parallel.get_bind fun session session' start => ?_
  -- A plan is entered under its own name, and its nesting is that of the plans on the way to it.
  have inside : (session.active.map c.names).contains (c.names name)
      = session.active.contains name := by
    simp [List.mem_map_of_injective lawful.injective]
  rw [lawful.active start, inside, List.length_map]
  split
  · exact .error rfl start
  · split
    · split
      · exact .error rfl start
      · exact .ok trivial start
    · exact .ok trivial start

/-- Both compilations compile a plan, unless both have done so. -/
theorem once_corresponds (config : CompilerConfig) {name : String} (own : c.common name)
    {body body' : Lowering ρ Unit} (acts : c.Acts body body') :
    c.Acts (once config name body) (once config (c.names name) body') := by
  refine Parallel.get_bind fun session session' start => ?_
  rw [lawful.isCompiled start own]
  split
  · exact .ok trivial start
  · refine Parallel.bind (checkNesting_corresponds lawful config name) (fun _ _ _ => ?_) _ _ start
    refine Parallel.bind (within_corresponds lawful name acts) fun _ _ _ => ?_
    exact .change fun _ _ start => lawful.complete start own

/-! ### Literals and texts -/

/-- Both compilations give plans of literals that correspond their own variables. -/
theorem literalLeaf_corresponds {owner : String} (own : c.common owner)
    {value value' : Literal} (literals : c.literals value value') :
    c.Steps (fun var var' => var' = c.vars var) (literalLeaf owner value)
      (literalLeaf (c.names owner) value') := by
  have constants := lawful.constant? literals
  unfold literalLeaf
  -- Null is no constant, and its variable is of a type that has to be found.
  generalize value.constant? = constant?, value'.constant? = constant'? at constants ⊢
  cases constants with
  | some related =>
    dsimp only
    rw [lawful.primitive? related]
    exact define_corresponds lawful own _ fun var => .constant var related
  | none =>
    refine find_corresponds lawful (Resolve.typeNamed_uniform lawful.same _) fun type => ?_
    exact define_corresponds lawful own type fun var => .twins (.null var)

/-- Both compilations give a plan of a text its own variable. -/
theorem textLeaf_corresponds {owner : String} (own : c.common owner)
    (text : String) :
    c.Steps (fun var var' => var' = c.vars var) (textLeaf owner text)
      (textLeaf (c.names owner) text) := by
  refine find_corresponds lawful (Resolve.typeNamed_uniform lawful.same _) fun type => ?_
  exact define_corresponds lawful own type fun var => .twins (.constant (.text text) var)

/-- Both compilations make a variable that holds nothing but null. -/
theorem nullVar_corresponds :
    c.Steps (fun var var' => var' = c.vars var) nullVar nullVar := by
  refine find_corresponds lawful (Resolve.typeNamed_uniform lawful.same _) fun type => ?_
  exact temporary_corresponds lawful type fun var => .twins (.null var)

/-- Both compilations find the array type that a type stands for. -/
theorem arrayType_corresponds (owner : String) (type : ValueType) :
    c.Steps Eq (arrayType owner type) (arrayType (c.names owner) type) := by
  refine find_corresponds lawful (Resolve.runtimeType_uniform lawful.same type) fun found => ?_
  split
  · exact .throw rfl
  · exact .pure rfl

end Lower

end TestPlan
