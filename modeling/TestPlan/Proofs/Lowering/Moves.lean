import TestPlan.Lowering.Session
import TestPlan.Proofs.Lowering.Resolve
import TestPlan.Proofs.TestCase.Coherence

/-! All that a lowering can do to a compilation, move by move, and what no move undoes. -/

namespace TestPlan

variable {ρ : Type}

namespace Compilation

/-- The variable that the next declaration gives. -/
def nextVar (session : Compilation ρ) : Var :=
  ⟨session.test.declared.length⟩

/-- A variable that holds the value of a plan. -/
def Holds (session : Compilation ρ) (var : Var) : Prop :=
  ∃ name, (name, var) ∈ session.bindings.bound

/-- The compilation after a variable has been declared that no statement defines. -/
def declared (session : Compilation ρ) (type : RuntimeType) : Compilation ρ :=
  { session with test := (session.test.declare type).2 }

/-- The compilation after a statement whose result goes into the next variable. -/
def produced (session : Compilation ρ) (type : RuntimeType) (statement : Statement) :
    Compilation ρ :=
  { session with test := (session.test.declare type).2.extended statement }

/-- The compilation after a plan has got a variable. -/
def bound (session : Compilation ρ) (name : String) (var : Var) : Compilation ρ :=
  { session with
    bindings := { session.bindings with bound := session.bindings.bound ++ [(name, var)] } }

/-- The compilation after a plan has been recorded as compiled. -/
def recorded (session : Compilation ρ) (name : String) : Compilation ρ :=
  { session with bindings := session.bindings.complete name }

/-- The compilation after a statement, whose result goes to a plan when one is given. -/
def appended (session : Compilation ρ) (statement : Statement) :
    Option (String × RuntimeType) → Compilation ρ
  | none => { session with test := session.test.extended statement }
  | some (name, type) => (session.produced type statement).bound name session.nextVar

end Compilation

/-- A statement that may be appended for a plan when one is given, if its reads are defined. -/
structure Ready (session : Compilation ρ) (owner : Option (String × RuntimeType))
    (statement : Statement) : Prop where
  running : session.terminated = false
  unbound : ∀ name type, owner = some (name, type) → session.bindings.isBound name = false
  defines : statement.defines = owner.map fun _ => session.nextVar
  inside : ∀ array index value, statement = .assignment (.element array index) value →
    session.test.HasElement array index

/-- Two statements of which the first only makes a value for the second. -/
inductive Passes (var : Var) : Statement → Statement → Prop
  /-- A null that stands for the receiver of a helper call. -/
  | receiver (helper : HelperRoutine) (args : List Operand) (result : Option Var) :
      Passes var (.null var) (.reflection helper (.var var :: args) result)
  /-- An array that is asked for its class. -/
  | array (allocate getClass : MethodHandle) (args : List Operand) (result : Var) :
      Passes var (.method allocate none args (some var))
        (.method getClass (some (.var var)) [] (some result))

/-- A statement that another one makes a value for does not assign an element. -/
theorem Passes.ne_element {var : Var} {first second : Statement}
    (passes : Passes var first second) (array : Var) (index : Nat) (value : Operand) :
    second ≠ .assignment (.element array index) value := by
  cases passes <;> simp

section Moves

variable [ClassLoading ρ]

/-- One change of a compilation by a lowering. -/
inductive Move (session : Compilation ρ) : Compilation ρ → Prop
  | load {loader : ρ} : Loads session.loader loader → Move session { session with loader }
  | append {owner : Option (String × RuntimeType)} {statement : Statement} :
      Ready session owner statement → (∀ var ∈ statement.uses, session.Holds var) →
        Move session (session.appended statement owner)
  /-- Two statements in a row, the second of which reads what the first has made. -/
  | appendBoth {type : RuntimeType} {first second : Statement}
      {owner : Option (String × RuntimeType)} {others : List Var} :
      session.terminated = false → first.defines = some session.nextVar →
        (∀ var ∈ first.uses, session.Holds var) →
        Ready (session.produced type first) owner second → Passes session.nextVar first second →
        second.uses = session.nextVar :: others → (∀ var ∈ others, session.Holds var) →
        Move session ((session.produced type first).appended second owner)
  /-- An array that is not asked for its class, since its plan has got a value meanwhile. -/
  | allocate {type : RuntimeType} {handle : MethodHandle} {args : List Operand} :
      session.terminated = false → (∀ var ∈ args.filterMap Operand.var?, session.Holds var) →
        Move session (session.produced type (.method handle none args (some session.nextVar)))
  /-- A variable for a statement that is refused because the test is complete. -/
  | declare {type : RuntimeType} : session.terminated = true →
      Move session (session.declared type)
  | record {name : String} : Move session (session.recorded name)
  | terminate : Move session { session with terminated := true }

/-- Changes of a compilation by a lowering, some of them inside plans. -/
inductive Moves : Compilation ρ → Compilation ρ → Prop
  | refl (session : Compilation ρ) : Moves session session
  | one {session after : Compilation ρ} : Move session after → Moves session after
  | trans {session middle after : Compilation ρ} :
      Moves session middle → Moves middle after → Moves session after
  | within {session after : Compilation ρ} {name : String} :
      Moves (session.enter name) after → Moves session after.leave

end Moves

/-! ### What stays -/

/-- The later test keeps all that the earlier one has appended and bound. -/
structure CompiledTest.Kept (built later : CompiledTest) : Prop where
  statements : built.test.statements <+: later.test.statements
  bound : built.bindings.bound <+: later.bindings.bound
  /-- What is known about a defined variable is final. -/
  defined : ∀ var known, built.test.info? var = some known → known.definedAt.isSome →
    later.test.info? var = some known
  types : ∀ var type, built.test.typeOf? var = some type → later.test.typeOf? var = some type
  /-- A plan that gets a variable later gets it from a later statement. -/
  fresh : ∀ name var, later.bindings.get? name = some var → built.bindings.get? name = none →
    ∃ position, later.test.definedAt? var = some position ∧ built.test.size ≤ position

namespace CompiledTest.Kept

/-- Without new bindings no plan gets a variable. -/
theorem fresh_of_same {built later : CompiledTest}
    (same : later.bindings.bound = built.bindings.bound) :
    ∀ name var, later.bindings.get? name = some var → built.bindings.get? name = none →
      ∃ position, later.test.definedAt? var = some position ∧ built.test.size ≤ position := by
  intro name var found absent
  -- The same entries cannot both hold the name and lack it.
  rw [Bindings.get?, same] at found
  rw [Bindings.get?, found] at absent
  cases absent

/-- Every test keeps its own. -/
theorem refl (built : CompiledTest) : Kept built built where
  statements := List.prefix_refl _
  bound := List.prefix_refl _
  defined _ _ found _ := found
  types _ _ found := found
  fresh := fresh_of_same rfl

variable {built later last : CompiledTest}

/-- The definition of a variable is final. -/
theorem definedAt? (kept : built.Kept later) {var : Var} {position : Nat}
    (defined : built.test.definedAt? var = some position) :
    later.test.definedAt? var = some position := by
  -- A definition belongs to what is known of the variable, which is final.
  obtain ⟨known, found, stored⟩ := Option.bind_eq_some_iff.mp defined
  rw [TestCase.definedAt?, kept.defined var known found (by simp [stored])]
  exact stored

/-- The variable of a name is final. -/
theorem get? (kept : built.Kept later) {name : String} {var : Var}
    (found : built.bindings.get? name = some var) : later.bindings.get? name = some var := by
  obtain ⟨added, split⟩ := kept.bound
  unfold Bindings.get? at found ⊢
  -- The first entry of a name counts, and new ones come after it.
  rw [← split, List.lookup_append, found]
  rfl

/-- What is kept twice is kept. -/
theorem trans (first : built.Kept later) (second : later.Kept last) : built.Kept last where
  statements := first.statements.trans second.statements
  bound := first.bound.trans second.bound
  defined var known found isDefined :=
    second.defined var known (first.defined var known found isDefined) isDefined
  types var type found := second.types var type (first.types var type found)
  fresh name var found absent := by
    -- The name has got its variable either in the first part or in the second.
    cases middle : later.bindings.get? name with
    | some other =>
      obtain ⟨position, defined, after⟩ := first.fresh name other middle absent
      have same := (second.get? middle).symm.trans found
      cases same
      exact ⟨position, second.definedAt? defined, after⟩
    | none =>
      obtain ⟨position, defined, after⟩ := second.fresh name var found middle
      exact ⟨position, defined, Nat.le_trans first.statements.length_le after⟩

end CompiledTest.Kept

/-- The later compilation keeps all that the earlier one has appended, bound and compiled. -/
structure Keeps (session after : Compilation ρ) : Prop
    extends session.compiled.Kept after.compiled where
  completed : session.bindings.completed <:+ after.bindings.completed
  active : after.active = session.active
  /-- After the call under test nothing is appended or bound. -/
  frozen : session.terminated = true → after.terminated = true ∧
    after.test.statements = session.test.statements ∧
    after.bindings.bound = session.bindings.bound

namespace Keeps

/-- Every compilation keeps its own. -/
theorem refl (session : Compilation ρ) : Keeps session session where
  toKept := .refl _
  completed := List.suffix_refl _
  active := rfl
  frozen terminated := ⟨terminated, rfl, rfl⟩

/-- What is kept twice is kept. -/
theorem trans {session middle after : Compilation ρ} (first : Keeps session middle)
    (second : Keeps middle after) : Keeps session after where
  toKept := first.toKept.trans second.toKept
  completed := first.completed.trans second.completed
  active := second.active.trans first.active
  frozen terminated := by
    -- A test that was complete at first was still complete halfway.
    obtain ⟨middle, statements, bound⟩ := first.frozen terminated
    obtain ⟨last, statements', bound'⟩ := second.frozen middle
    exact ⟨last, statements'.trans statements, bound'.trans bound⟩

/-- A variable that holds a value goes on to hold it. -/
theorem holds {session after : Compilation ρ} (kept : Keeps session after) {var : Var}
    (held : session.Holds var) : after.Holds var := by
  obtain ⟨name, member⟩ := held
  exact ⟨name, kept.bound.subset member⟩

/-- A name that is compiled stays so. -/
theorem isCompiled {session after : Compilation ρ} (kept : Keeps session after)
    {name : String} (compiled : session.bindings.isCompiled name = true) :
    after.bindings.isCompiled name = true := by
  -- A name counts as compiled when it is recorded so or has a variable.
  unfold Bindings.isCompiled Bindings.isBound at compiled ⊢
  rw [Bool.or_eq_true] at compiled ⊢
  rcases compiled with completed | bound
  · left
    rw [List.contains_iff_mem] at completed ⊢
    exact kept.completed.subset completed
  · right
    obtain ⟨var, found⟩ := Option.isSome_iff_exists.mp bound
    have found : after.bindings.get? name = some var := kept.get? found
    rw [found]
    rfl

end Keeps

/-! ### What moves keep -/

/-- A declared variable has an index below the number of declarations. -/
theorem TestCase.lt_of_info? {test : TestCase} {var : Var} {known : Variable}
    (found : test.info? var = some known) : var.index < test.declared.length :=
  (List.getElem?_eq_some_iff.mp found).1

/-- A declaration leaves what is known about declared variables. -/
theorem TestCase.info?_declare_of_some {test : TestCase} {var : Var} {known : Variable}
    (found : test.info? var = some known) (type : RuntimeType) :
    (test.declare type).2.info? var = some known := by
  have inside := TestCase.lt_of_info? found
  rw [info?_declare, if_neg (by omega), found]

/-- A statement that defines nothing declared before leaves all declared variables. -/
theorem TestCase.info?_extended_of_ne {test : TestCase} {statement : Statement} {var : Var}
    (other : statement.defines ≠ some var) :
    (test.extended statement).info? var = test.info? var := by
  rw [info?_extended, if_neg other]

namespace Compilation

/-- The next variable is none of those declared. -/
theorem ne_nextVar {session : Compilation ρ} {var : Var} {known : Variable}
    (found : session.test.info? var = some known) : var ≠ session.nextVar := by
  rintro rfl
  exact Nat.lt_irrefl _ (TestCase.lt_of_info? found)

/-- A statement for the next variable leaves the variables declared before. -/
theorem info?_produced {session : Compilation ρ} {type : RuntimeType} {statement : Statement}
    (defines : statement.defines = some session.nextVar) {var : Var} {known : Variable}
    (found : session.test.info? var = some known) :
    (session.produced type statement).test.info? var = some known := by
  -- Only the next variable changes, and it was not declared.
  have other : statement.defines ≠ some var := by
    rw [defines]
    exact fun same => ne_nextVar found (Option.some.inj same).symm
  rw [produced, TestCase.info?_extended_of_ne other, TestCase.info?_declare_of_some found]

/-- A statement for the next variable defines it. -/
theorem definedAt?_produced {session : Compilation ρ} {type : RuntimeType}
    {statement : Statement} (defines : statement.defines = some session.nextVar) :
    (session.produced type statement).test.definedAt? session.nextVar
      = some session.test.size := by
  -- The declaration comes first, so the statement finds an entry to complete.
  have declared : (session.test.declare type).2.info? session.nextVar = some { type } := by
    rw [TestCase.info?_declare]
    exact if_pos rfl
  rw [produced, TestCase.definedAt?, TestCase.info?_extended, if_pos defines, declared]
  rfl

/-- A statement for the next variable keeps all there is. -/
theorem keeps_produced {session : Compilation ρ} {type : RuntimeType} {statement : Statement}
    (running : session.terminated = false) (defines : statement.defines = some session.nextVar) :
    Keeps session (session.produced type statement) where
  statements := List.prefix_append _ _
  bound := List.prefix_refl _
  completed := List.suffix_refl _
  defined _ _ found _ := info?_produced defines found
  types var type found := by
    -- Types are kept with everything else that is known of a variable.
    obtain ⟨known, found, same⟩ := Option.map_eq_some_iff.mp found
    exact Option.map_eq_some_iff.mpr ⟨known, info?_produced defines found, same⟩
  fresh := CompiledTest.Kept.fresh_of_same rfl
  active := rfl
  frozen terminated := by rw [running] at terminated; cases terminated

/-- An appended statement keeps all there is. -/
theorem keeps_appended {session : Compilation ρ} {owner : Option (String × RuntimeType)}
    {statement : Statement} (ready : Ready session owner statement) :
    Keeps session (session.appended statement owner) := by
  cases owner with
  | some owner =>
    obtain ⟨name, type⟩ := owner
    -- The statement comes with its variable, and the binding is added afterwards.
    have kept : Keeps session (session.produced type statement) :=
      keeps_produced ready.running ready.defines
    exact {
      statements := kept.statements
      bound := List.prefix_append _ _
      completed := kept.completed
      defined := kept.defined
      types := kept.types
      fresh := fun name' var found absent => by
        -- The only new entry is that of the plan, whose variable is the next one.
        have found : (session.bindings.bound ++ [(name, session.nextVar)]).lookup name'
          = some var := found
        have absent : session.bindings.bound.lookup name' = none := absent
        rw [List.lookup_append, absent, Option.none_or] at found
        have member := (List.lookup_eq_some_iff.mp found)
        obtain ⟨before, after, split, _⟩ := member
        have same : var = session.nextVar := by
          have entry : (name', var) ∈ [(name, session.nextVar)] := by simp [split]
          simpa using congrArg Prod.snd (List.mem_singleton.mp entry)
        exact ⟨_, same ▸ definedAt?_produced ready.defines, Nat.le_refl _⟩
      active := rfl
      frozen := fun terminated => by rw [ready.running] at terminated; cases terminated }
  | none =>
    -- Nothing is defined, so nothing known changes.
    have same : ∀ var, (session.test.extended statement).info? var = session.test.info? var :=
      fun var => TestCase.info?_extended_of_ne (by rw [ready.defines]; simp)
    exact {
      statements := List.prefix_append _ _
      bound := List.prefix_refl _
      completed := List.suffix_refl _
      defined := fun var known found _ => (same var).trans found
      types := fun var type found => (congrArg _ (same var)).trans found
      fresh := CompiledTest.Kept.fresh_of_same rfl
      active := rfl
      frozen := fun terminated => by rw [ready.running] at terminated; cases terminated }

/-- A declaration keeps all there is. -/
theorem keeps_declared (session : Compilation ρ) (type : RuntimeType) :
    Keeps session (session.declared type) :=
  { Keeps.refl session with
    defined := fun var known found _ => TestCase.info?_declare_of_some found _
    types := fun var type found => by
      obtain ⟨known, found, same⟩ := Option.map_eq_some_iff.mp found
      exact Option.map_eq_some_iff.mpr ⟨known, TestCase.info?_declare_of_some found _, same⟩
    fresh := CompiledTest.Kept.fresh_of_same rfl }

/-- Recording a plan as compiled keeps all there is. -/
theorem keeps_recorded (session : Compilation ρ) (name : String) :
    Keeps session (session.recorded name) :=
  { Keeps.refl session with completed := List.suffix_cons _ _ }

end Compilation

variable [ClassLoading ρ]

/-- No move undoes anything. -/
theorem Move.keeps {session after : Compilation ρ} (move : Move session after) :
    Keeps session after := by
  cases move with
  -- Only statements and declarations touch the test, and each adds at the end.
  | load _ => exact { Keeps.refl session with }
  | append ready _ => exact Compilation.keeps_appended ready
  | appendBoth running defines _ ready _ _ _ =>
    exact (Compilation.keeps_produced running defines).trans
      (Compilation.keeps_appended ready)
  | allocate running _ => exact Compilation.keeps_produced running rfl
  | declare _ => exact Compilation.keeps_declared session _
  | record => exact Compilation.keeps_recorded session _
  | terminate => exact { Keeps.refl session with frozen := fun _ => ⟨rfl, rfl, rfl⟩ }

/-- Moves undo nothing, and what they do inside a plan leaves the plans around it. -/
theorem Moves.keeps {session after : Compilation ρ} (moves : Moves session after) :
    Keeps session after := by
  induction moves with
  | refl session => exact .refl session
  | one move => exact move.keeps
  | trans _ _ first second => exact first.trans second
  | within _ ih =>
    -- Entering and leaving a plan touch nothing but the plans that are being compiled.
    exact { ih with
      active := by
        rw [Compilation.leave, ih.active]
        rfl }

end TestPlan
