import TestPlan.Demo.Plans
import TestPlan.Proofs.Lowering.CorrespondingPlans
import TestPlan.Proofs.Plan.Renaming

/-! The names of plans are only identities: under other names the same test is compiled. -/

namespace TestPlan

open List (Forall₂)

variable {ρ : Type}

section Definitions

variable (names : String → String)

/-- Parameters with every name in their plans replaced. -/
def Parameters.rename (parameters : Parameters) : Parameters where
  receiver := parameters.receiver.map (Plan.rename names)
  arguments := parameters.arguments.map (Plan.rename names)
  statics := parameters.statics.map (Plan.rename names)

/-- The bindings of the same variables to other names, in the same order. -/
def Bindings.rename (bindings : Bindings) : Bindings where
  bound := bindings.bound.map fun (name, var) => (names name, var)
  completed := bindings.completed.map names

/-- A failure that blames a plan under its other name. -/
def CompileError.rename (error : CompileError) : CompileError :=
  error.map names id id

/-- The same test with its variables bound to other names. -/
def CompiledTest.rename (built : CompiledTest) : CompiledTest :=
  { built with bindings := built.bindings.rename names }

/-- The compilation as it is under other names. -/
def Compilation.rename (session : Compilation ρ) : Compilation ρ :=
  { session with
    bindings := session.bindings.rename names
    active := session.active.map names }

/-- Compilations of the same plans under their own names and under others. -/
def Correspondence.underNames : Correspondence ρ where
  names := names
  vars := id
  positions := id
  loaders := Eq
  states session session' := session' = session.rename names
  plans := Plan.Renamed names
  literals := Eq
  constants := Eq
  common _ := True
  stands _ operand operand' := operand' = operand

end Definitions

variable {names : String → String}

/-! ### Statements are the same -/

/-- Operands that are the same one by one are the same. -/
theorem StandAll.eq {slots : List (Option Plan)} {operands operands' : List Operand}
    (all : StandAll (fun _ operand operand' => operand' = operand) slots operands operands') :
    operands' = operands := by
  induction all with
  | nil => rfl
  | cons same _ ih => rw [same, ih]

/-- Optional operands that are the same are the same. -/
theorem StandAll.eq_of_toList {slots : List (Option Plan)} {operand operand' : Option Operand}
    (all : StandAll (fun _ operand operand' => operand' = operand) slots operand.toList
      operand'.toList) : operand' = operand :=
  TestPlan.eq_of_toList all.eq

/-- Statements that agree in all but their operands, which are the same, are the same. -/
theorem Statement.Twins.eq {slots : List (Option Plan)} {statement statement' : Statement}
    (twins : statement.Twins id (fun _ operand operand' => operand' = operand) slots statement') :
    statement' = statement := by
  cases twins with
  | constructor _ _ args | reflection _ _ args => rw [args.eq, Option.map_id_fun, id]
  | method _ _ callee args => rw [callee.eq_of_toList, args.eq, Option.map_id_fun, id]
  | fieldRead _ _ owner => rw [owner.eq_of_toList, id]
  | element _ _ value => rw [value, id]
  | field _ _ value => rw [value, Option.map_id_fun, id]
  | constant | null | newArray => rfl

/-- A refusal with the same variables and positions is the same. -/
theorem TestCaseError.map_id (error : TestCaseError) : error.map id id = error := by
  cases error <;> rfl

/-! ### Bindings under other names -/

section Bindings

variable (injective : Function.Injective names)

include injective

/-- What is bound to a name is bound to the other name. -/
theorem Bindings.get?_rename (bindings : Bindings) (name : String) :
    (bindings.rename names).get? (names name) = bindings.get? name := by
  simp only [get?, rename]
  induction bindings.bound with
  | nil => rfl
  | cons entry rest ih =>
    have same : (names name == names entry.1) = (name == entry.1) := by
      rw [Bool.eq_iff_iff, beq_iff_eq, beq_iff_eq, injective.eq_iff]
    rw [List.map_cons, List.lookup_cons, List.lookup_cons, same, ih]

/-- A plan is compiled when it is under its other name. -/
theorem Bindings.isCompiled_rename (bindings : Bindings) (name : String) :
    (bindings.rename names).isCompiled (names name) = bindings.isCompiled name := by
  have completed : (bindings.rename names).completed.contains (names name)
      = bindings.completed.contains name := by
    simp [rename, List.mem_map_of_injective injective]
  rw [isCompiled, isCompiled, completed, isBound, isBound, get?_rename injective]

/-- Compilations under other names correspond. -/
theorem Correspondence.underNames_lawful [ClassLoading ρ] :
    (underNames names : Correspondence ρ).Lawful where
  injective := injective
  same := ⟨fun _ => .self _, fun _ same => same ▸ rfl⟩
  twins := by
    rintro plan _ rfl
    exact ⟨plan.name_rename, plan.kind_rename ▸ plan.kind.twins_rename names⟩
  asInt? same := same ▸ rfl
  constant? same := same ▸ Literal.rel_constant? _
  primitive? same := same ▸ rfl
  stands _ operand _ := by cases operand <;> rfl
  constants _ _ _ same _ := congrArg Operand.constant same.symm
  loader := by
    rintro session _ rfl
    rfl
  reload := by
    rintro session _ loader _ rfl rfl
    rfl
  active := by
    rintro session _ rfl
    rfl
  activate := by
    rintro session _ active rfl
    rfl
  terminated := by
    rintro session _ rfl
    rfl
  terminate := by
    rintro session _ rfl
    rfl
  get? := by
    rintro session _ name rfl _
    exact (session.bindings.get?_rename injective name).trans Option.map_id_apply.symm
  bind := by
    rintro session _ name var rfl _
    simp [underNames, Compilation.rename, Bindings.rename]
  isCompiled := by
    rintro session _ name rfl _
    exact session.bindings.isCompiled_rename injective name
  complete := by
    rintro session _ name rfl _
    rfl
  -- All plans are treated alike.
  inline _ _ unknown := absurd trivial unknown
  declare := by
    rintro session _ type rfl
    exact ⟨rfl, rfl⟩
  append := by
    rintro session _ slots statement statement' rfl corresponds
    -- Names do not occur in statements, so the same statement is appended to the same test.
    rw [corresponds.of_eq.eq]
    have same : (session.rename names).test = session.test := rfl
    rw [same]
    cases session.test.append statement with
    | ok test => exact .ok rfl
    | error error => exact .error error.map_id.symm
  typeName := by
    rintro session _ slot operand _ rfl rfl
    rfl

/-! ### Tests under other names -/

namespace Lower

variable {sharing sharing' : Sharing} (shared : sharing.Renamed names sharing')

include shared

/-- The names are accepted when the other names are. -/
theorem checkNames_rename (config : CompilerConfig) (parameters : Parameters) :
    checkNames sharing' config (parameters.rename names)
      = (checkNames sharing config parameters).mapError (CompileError.rename names) := by
  have roots : (parameters.rename names).roots = parameters.roots.map (Plan.rename names) := by
    simp [Parameters.roots, Parameters.rename, Option.toList_map]
  rw [checkNames_eq, checkNames_eq, roots, PlanGraph.ofRoots_rename injective shared]
  split
  · cases PlanGraph.ofRoots sharing parameters.roots <;> rfl
  · rfl

/--
Names of plans are only identities: with other names, which tell plans apart just as well, and with
the same plans shared, the same test is compiled, or the same failure occurs, whatever the
configuration.
-/
theorem compileTest_rename [ClassLoading ρ] (config : CompilerConfig) (method : MethodReference)
    (parameters : Parameters) (loader : ρ) :
    compileTest sharing' config method (parameters.rename names) { loader }
      = match compileTest sharing config method parameters { loader } with
        | .ok built after => .ok (built.rename names) (after.rename names)
        | .error error after => .error (error.rename names) (after.rename names) := by
  have twins : parameters.Twins (Plan.Renamed names) (parameters.rename names) := {
    receiver := by
      rw [Parameters.rename, Option.toList_map]
      exact forall₂_renamed parameters.receiver.toList
    arguments := forall₂_renamed parameters.arguments
    statics := forall₂_renamed parameters.statics }
  -- Both start with nothing bound, and so under the same names as under the others.
  have outcomes := compileTest_corresponds (Correspondence.underNames_lawful injective) method twins
    (fun _ _ => trivial) (checkNames_rename injective shared config parameters)
    { loader } { loader } rfl
  generalize compileTest sharing config method parameters { loader } = ran,
    compileTest sharing' config method (parameters.rename names) { loader } = ran' at outcomes ⊢
  cases outcomes with
  | ok built ended =>
    obtain ⟨session, _, rfl, rfl, rfl⟩ := built
    obtain rfl := ended
    rfl
  | error same ended =>
    obtain rfl := same
    obtain rfl := ended
    rfl

end Lower

end Bindings

/-- The distance of two points, one of which is prepared twice. -/
def Demo.between : Parameters where
  receiver := some (pointAt "p" 1 2)
  arguments := [pointAt "q" 3 4]
  statics := [pointAt "p" 1 2]

/-- The distance of two points is tested alike when their plans are all copies by name. -/
theorem Lower.compileTest_rename_between : ∃ (built : CompiledTest) (after : Session),
    compileTest .none {} Demo.pointDistance Demo.between { loader := Demo.loader [] }
      = .ok built after ∧
    compileTest .none {} Demo.pointDistance (Demo.between.rename ("copy of " ++ ·))
      { loader := Demo.loader [] }
        = .ok (built.rename ("copy of " ++ ·)) (after.rename ("copy of " ++ ·)) := by
  have injective : Function.Injective ("copy of " ++ · : String → String) :=
    fun name other same => by simpa using same
  obtain ⟨built, after, ran⟩ : ∃ built after,
      compileTest .none {} Demo.pointDistance Demo.between ({ loader := Demo.loader [] } : Session)
        = .ok built after :=
    exists_ok_of_run' (by decide +kernel)
  have shared : Sharing.none.Renamed ("copy of " ++ ·) .none := fun _ _ _ => rfl
  have renamed := compileTest_rename injective shared {} Demo.pointDistance Demo.between
    (Demo.loader [])
  rw [ran] at renamed
  exact ⟨built, after, ran, renamed⟩

end TestPlan
