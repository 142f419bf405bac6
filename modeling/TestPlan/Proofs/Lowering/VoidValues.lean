import TestPlan.Proofs.Lowering.Identities

/-!
Where void gets into a test: variables of type void, or of arrays of void, are those of plans that
declare such a type, and a method that is called for a value is the one that the classes have for
a reference with another result.
-/

namespace TestPlan

/-! ### Void inside a type -/

/-- The type of the innermost elements of an array, and any other type itself. -/
def ValueType.innermost : ValueType → ValueType
  | .array component => component.innermost
  | type => type

/-- The type of the innermost elements of an array, and any other type itself. -/
def RuntimeType.innermost : RuntimeType → RuntimeType
  | .array component => component.innermost
  | type => type

section

variable {ρ : Type} [ClassLoading ρ] {setting : Setting ρ}

/-- A type of the running program is void inside when the type of the plan is. -/
theorem Setting.Finds.innermost_eq_void_iff {declared : ValueType} {type : RuntimeType}
    (finds : setting.Finds (Resolve.runtimeType declared) type) :
    type.innermost = .void ↔ declared.innermost = .void := by
  -- The induction is on the array levels, which are the same in both types.
  induction declared generalizing type with
  | void | primitive =>
    cases eq_of_pure finds
    simp [RuntimeType.innermost, ValueType.innermost]
  | object className =>
    obtain ⟨loaded, _, last⟩ := finds.of_bind (Resolve.load_plain _)
    cases eq_of_pure last
    simp [RuntimeType.innermost, ValueType.innermost, LoadedClass.type]
  | array component ih =>
    obtain ⟨element, first, rfl⟩ := finds.component
    show element.innermost = .void ↔ component.innermost = .void
    exact ih first

end

/-! ### What variables are for -/

/-- The method or constructor that a step calls for the value of its plan. -/
def Action.called? : Action → Option MethodReference
  | .constructorCall method _
  | .externalConstructorCall method _
  | .externalMethodCall method _ _ => some method
  | _ => none

/-- How the methods that a step calls for values are found, of which two give an array's class. -/
def Action.methodsForValues {ρ : Type} [ClassLoading ρ] (step : Action) :
    List (Lookup ρ MethodHandle) :=
  match step with
  | .arrayClassConstantGetter _ =>
    [Resolve.methodNamed reflectArrayClass "newInstance" [classClass, "int"],
      Resolve.methodNamed objectClass "getClass" []]
  | step => step.called?.toList.map Resolve.method

/-- The method that a step refers to is among those that it calls for values. -/
theorem Action.method_mem_methodsForValues {ρ : Type} [ClassLoading ρ] {step : Action}
    {method : MethodReference} (called : step.called? = some method) :
    (Resolve.method method : Lookup ρ MethodHandle) ∈ step.methodsForValues := by
  cases step <;> cases called <;> exact List.mem_singleton.mpr rfl

/-- Loaders that load the same classes find the same methods for a step. -/
theorem Action.methodsForValues_uniform {ρ : Type} [ClassLoading ρ] {loaders : ρ → ρ → Prop}
    (same : SameClasses loaders) {step : Action} {lookup : Lookup ρ MethodHandle}
    (member : lookup ∈ step.methodsForValues) : Uniform loaders lookup := by
  unfold methodsForValues at member
  split at member
  · rcases List.mem_pair.mp member with rfl | rfl
    · exact Resolve.methodNamed_uniform same _ _ _
    · exact Resolve.methodNamed_uniform same _ _ _
  · obtain ⟨method, _, rfl⟩ := List.mem_map.mp member
    exact Resolve.method_uniform same method

namespace Setting

variable {ρ : Type} [ClassLoading ρ] (setting : Setting ρ) (built : CompiledTest)

/-- Why a test has a variable: for the value of a plan, or for the statement that comes next. -/
inductive Explains (var : Var) : Prop
  | plan {name : String} : built.bindings.get? name = some var → Explains var
  /-- The null that stands for the object of a static field. -/
  | null {type : RuntimeType} : setting.Finds (Resolve.typeNamed objectClass) type →
      built.test.typeOf? var = some type → Explains var
  /-- The empty array that is asked for its class. -/
  | emptyArray {plan elementType : Plan} {allocate : MethodHandle} {type : RuntimeType} :
      setting.HasAction plan (.arrayClassConstantGetter elementType) →
      setting.Finds
        (Resolve.methodNamed reflectArrayClass "newInstance" [classClass, "int"]) allocate →
      setting.Finds (Resolve.typeNamed allocate.returns) type →
      built.test.typeOf? var = some type → Explains var

variable {setting built} {statement : Statement} {var : Var}

/-- The result of a call is the variable of a plan. -/
theorem Calls.explains {method : MethodReference} {callee : Option Operand} {args : List Operand}
    {owner : Option String} (calls : setting.Calls built method callee args owner statement)
    (defines : statement.defines = some var) : setting.Explains built var := by
  -- Where the result goes does not depend on what is called.
  cases calls with
  | constructor _ _ receives | method _ _ _ receives =>
    cases receives with
    | nothing => cases defines
    | owner owns =>
      cases defines
      exact .plan owns.bound

/-- A method whose result is kept is called for the value of a plan. -/
theorem Calls.of_result {method : MethodReference} {callee : Option Operand} {args : List Operand}
    {owner : Option String} {handle : MethodHandle} {receiver : Option Operand}
    {operands : List Operand}
    (calls : setting.Calls built method callee args owner
      (.method handle receiver operands (some var))) :
    owner.isSome = true ∧ method.returns ≠ .void ∧
      setting.Finds (Resolve.method method) handle := by
  cases calls with
  | method isMethod finds returns receives =>
    cases receives with
    | owner owns =>
      obtain ⟨found, notVoid⟩ := returns rfl
      refine ⟨rfl, ?_, finds⟩
      -- A result that the reference declares as void is void in the running program.
      intro declared
      rw [declared] at found
      exact notVoid (Finds.eq_of_pure found)

/-- A value that a direct step makes is that of its plan, or made for its next statement. -/
theorem Performs.explains {plan : Plan} {step : Action} (has : setting.HasAction plan step)
    (performs : setting.Performs built plan.name step statement)
    (defines : statement.defines = some var) : setting.Explains built var := by
  cases performs with
  | constructorCall invokes | externalConstructorCall invokes | externalMethodCall invokes
  | staticMethodCall invokes =>
    obtain ⟨_, _, calls⟩ := invokes
    exact calls.explains defines
  | methodCall _ _ calls => exact calls.explains defines
  | arrayWrite | initialElement | fieldSetter | staticFieldSetter => cases defines
  | allocate _ finds typed declared =>
    cases defines
    exact .emptyArray has finds typed declared
  | defaultConstructorCall _ owns | enumValueCreation _ _ owns | fieldGetter _ _ _ owns
  | staticFieldGetter _ _ owns | newArray _ _ _ owns | newArrayWithInitializer _ _ owns
  | classConstantGetter _ _ owns | arrayClassConstantGetter _ _ owns =>
    cases defines
    exact .plan owns.bound

/-- A value that a reflective step makes is that of its plan. -/
theorem PerformsReflective.explains {owner : String} {position : Nat} {step : ReflectiveAction}
    (performs : setting.PerformsReflective built owner position step statement)
    (defines : statement.defines = some var) : setting.Explains built var := by
  -- Steps that change something have no result, and the others put it into the plan's variable.
  cases performs with
  | arrayWrite | setField | setStaticField => cases defines
  | newInstance _ _ owns | newArray _ _ _ _ owns | arrayRead _ _ _ _ owns
  | getField _ _ _ _ owns | getStaticField _ _ _ _ _ owns =>
    cases defines
    exact .plan owns.bound

/-- Every variable that a statement defines is there for a reason. -/
theorem Wrote.explains {position : Nat} {author : Author}
    (wrote : setting.Wrote built position author) (there : built.At position statement)
    (defines : statement.defines = some var) : setting.Explains built var := by
  cases wrote with
  | direct has here performs =>
    cases here.symm.trans there
    exact performs.explains has defines
  | reflective _ here performs =>
    cases here.symm.trans there
    exact performs.explains defines
  | receiver _ isStatic _ performs =>
    -- What stands here is the null of the access that comes next.
    cases performs with
    | setStaticField after null | getStaticField after null =>
      cases after
      obtain ⟨here, type, finds, typed⟩ := null
      cases here.symm.trans there
      cases defines
      exact .null finds typed
    | _ => cases isStatic
  | leaf _ prescribed =>
    obtain ⟨_, own, owns, made⟩ := prescribed.makes there
    have same : own = var := by
      rcases made with ⟨_, rfl⟩ | rfl <;> exact Option.some.inj defines
    exact .plan (same ▸ owns.bound)
  | call invokes here =>
    cases here.symm.trans there
    obtain ⟨_, _, calls⟩ := invokes
    exact calls.explains defines

/-- A step calls a method for a value, which its reference does not declare as void. -/
structure Values (setting : Setting ρ) (step : Action) (handle : MethodHandle) : Prop where
  finds : ∃ lookup ∈ step.methodsForValues, setting.Finds lookup handle
  declared : ∀ method, step.called? = some method → method.returns ≠ .void

/-- A method that is called for the value of a plan is the one that the step refers to. -/
theorem Calls.values {step : Action} {method : MethodReference} {callee : Option Operand}
    {args : List Operand} {owner : Option String} {handle : MethodHandle}
    {receiver : Option Operand} {operands : List Operand}
    (calls : setting.Calls built method callee args owner
      (.method handle receiver operands (some var)))
    (called : step.called? = some method) : setting.Values step handle where
  finds := ⟨_, Action.method_mem_methodsForValues called, calls.of_result.2.2⟩
  declared other same := by
    cases called.symm.trans same
    exact calls.of_result.2.1

/-- A direct step calls a method for a value only as its kind says. -/
theorem Performs.values {owner : String} {step : Action} {handle : MethodHandle}
    {callee : Option Operand} {args : List Operand}
    (performs : setting.Performs built owner step (.method handle callee args (some var))) :
    setting.Values step handle := by
  cases performs with
  | constructorCall invokes | externalConstructorCall invokes | externalMethodCall invokes =>
    obtain ⟨_, _, calls⟩ := invokes
    exact calls.values rfl
  | staticMethodCall invokes =>
    -- What the plan itself does not get is not kept.
    obtain ⟨_, _, calls⟩ := invokes
    cases calls.of_result.1
  | methodCall _ _ calls => cases calls.of_result.1
  | allocate _ finds => exact ⟨⟨_, List.mem_pair.mpr (.inl rfl), finds⟩, nofun⟩
  | arrayClassConstantGetter finds => exact ⟨⟨_, List.mem_pair.mpr (.inr rfl), finds⟩, nofun⟩

/-- Only a direct step calls a method for a value. -/
theorem Wrote.values {position : Nat} {author : Author} {handle : MethodHandle}
    {callee : Option Operand} {args : List Operand} (wrote : setting.Wrote built position author)
    (there : built.At position (.method handle callee args (some var))) :
    ∃ plan step, author = .direct plan step ∧ setting.Values step handle := by
  cases wrote with
  | direct _ here performs =>
    cases here.symm.trans there
    exact ⟨_, _, rfl, performs.values⟩
  | reflective _ here performs =>
    cases here.symm.trans there
    obtain ⟨_, _, _, same⟩ := performs.exists_reflection
    cases same
  | receiver _ isStatic _ performs =>
    obtain ⟨_, _, _, _, _, null⟩ := performs.reads_null isStatic
    cases null.symm.trans there
  | leaf _ prescribed =>
    obtain ⟨_, _, _, ⟨_, same⟩ | same⟩ := prescribed.makes there <;> cases same
  | call invokes here =>
    -- The call under test keeps no result.
    cases here.symm.trans there
    obtain ⟨_, _, calls⟩ := invokes
    cases calls.of_result.1

end Setting

/-! ### Whole tests -/

/-- What is found for a name is void inside only if a needed plan declares it so. -/
theorem Setting.Declares.exists_void {ρ : Type} [ClassLoading ρ] {setting : Setting ρ}
    {name : String} {type : RuntimeType} (declares : setting.Declares name type)
    (isVoid : type.innermost = .void) :
    ∃ plan declared, Needed setting.roots plan ∧ plan.name = name ∧ declared ∈ plan.madeTypes ∧
      declared.innermost = .void := by
  obtain ⟨plan, declared, needed, named, made, finds⟩ := declares
  exact ⟨plan, declared, needed, named, made, finds.innermost_eq_void_iff.mp isVoid⟩

/--
Void gets into a test that is compiled only from what its plans declare and from what the classes
say against them. A variable that is void inside holds the value of a needed plan that declares
such a type, or an array of the type that the classes give for new arrays. A method that is called
for a value is one of those that the step which has written the call asks the classes for, and the
step itself does not declare the result as void. All sources of classes are in memory.
-/
theorem compileTest_void (sharing : Sharing) (loader : Loader) (config : CompilerConfig)
    (method : MethodReference) (parameters : Parameters) {test : CompiledTest} {after : Session}
    (compiled : Lower.compileTest sharing config method parameters { loader } = .ok test after) :
    (∀ var type, test.test.typeOf? var = some type → type.innermost = .void →
      (∃ plan declared, Needed parameters.roots plan ∧
        test.bindings.get? plan.name = some var ∧ declared ∈ plan.madeTypes ∧
        declared.innermost = .void) ∨
      ∃ plan elementType allocate later last,
        Setting.HasAction ⟨config, loader, parameters.roots⟩ plan
          (.arrayClassConstantGetter elementType) ∧
        Resolve.methodNamed reflectArrayClass "newInstance" [classClass, "int"] loader
          = .ok allocate later ∧
        Resolve.typeNamed allocate.returns loader = .ok type last) ∧
    ∀ position handle callee args var,
      test.At position (.method handle callee args (some var)) →
      ∃ plan step, Setting.WroteFor ⟨config, loader, parameters.roots⟩
          (parameters.testCall method) test position (.direct plan step) ∧
        (∃ lookup ∈ step.methodsForValues, ∃ later, lookup loader = .ok handle later) ∧
        ∀ method, step.called? = some method → method.returns ≠ .void := by
  obtain ⟨called, rfl, rfl, running, sound⟩ := Lower.compileTest_called compiled
  constructor
  · intro var type typed isVoid
    obtain ⟨position, statement, there, defines⟩ := sound.exists_definer running typed
    obtain ⟨author, wrote⟩ := sound.exists_author there
    cases wrote.wrote.explains there defines with
    | @plan name bound =>
      left
      obtain ⟨type', typed', declares⟩ := sound.typed name var bound
      cases typed.symm.trans typed'
      obtain ⟨plan, declared, needed, rfl, made, inside⟩ := declares.exists_void isVoid
      exact ⟨plan, declared, needed, bound, made, inside⟩
    | null finds typed' =>
      -- The null is of the class of all objects.
      cases typed.symm.trans typed'
      rw [Resolve.typeNamed_objectClass] at finds
      cases finds.innermost_eq_void_iff.mp isVoid
    | emptyArray has allocates finds typed' =>
      right
      cases typed.symm.trans typed'
      obtain ⟨later, found⟩ :=
        allocates.initially (Resolve.methodNamed_uniform Loader.sameClasses _ _ _)
      obtain ⟨last, given⟩ := finds.initially (Resolve.typeNamed_uniform Loader.sameClasses _)
      exact ⟨_, _, _, later, last, has, found, given⟩
  · intro position handle callee args var there
    obtain ⟨author, wrote⟩ := sound.exists_author there
    obtain ⟨plan, step, rfl, ⟨lookup, asked, finds⟩, declared⟩ := wrote.wrote.values there
    obtain ⟨later, found⟩ :=
      finds.initially (Action.methodsForValues_uniform Loader.sameClasses asked)
    exact ⟨plan, step, wrote, ⟨lookup, asked, later, found⟩, declared⟩

/-- Whether a statement keeps the result of a method. -/
def Statement.keepsResult : Statement → Bool
  | .method _ _ _ (some _) => true
  | _ => false

/-- A plan that reads the level of the settings as if the field were void. -/
def Demo.voidLevel : Plan :=
  .mk "level" (.actions [.staticFieldGetter ⟨settings, "level", .void, true⟩])

/-- A plan of the integer that resetting the settings is said to give. -/
def Demo.resetResult : Plan :=
  .mk "result" (.actions [.externalMethodCall ⟨settings, "reset", [], intType, true⟩ none []])

/-- The variable of a field that is declared as void is void because its plan says so, and the
result that is kept of a method without one is that of a step which declares another result. -/
theorem compileTest_void_level :
    ∃ (test : CompiledTest) (after : Session) (var : Var),
      Lower.compileTest .none {} Demo.settingsReset
        { statics := [Demo.voidLevel, Demo.resetResult] } { loader := Demo.loader [] }
          = .ok test after ∧
      test.test.typeOf? var = some .void ∧
      ((∃ plan declared, Needed [Demo.voidLevel, Demo.resetResult] plan ∧
        test.bindings.get? plan.name = some var ∧ declared ∈ plan.madeTypes ∧
        declared.innermost = .void) ∨
      ∃ plan elementType allocate later last,
        Setting.HasAction ⟨{}, Demo.loader [], [Demo.voidLevel, Demo.resetResult]⟩ plan
          (.arrayClassConstantGetter elementType) ∧
        Resolve.methodNamed reflectArrayClass "newInstance" [classClass, "int"] (Demo.loader [])
          = .ok allocate later ∧
        Resolve.typeNamed allocate.returns (Demo.loader []) = .ok RuntimeType.void last) ∧
      ∃ position handle callee args result,
        test.At position (.method handle callee args (some result)) ∧
        ∃ plan step, Setting.WroteFor ⟨{}, Demo.loader [], [Demo.voidLevel, Demo.resetResult]⟩
            (.mk Demo.settingsReset none []) test position (.direct plan step) ∧
          (∃ lookup ∈ step.methodsForValues, ∃ later, lookup (Demo.loader []) = .ok handle later) ∧
          ∀ method, step.called? = some method → method.returns ≠ .void := by
  obtain ⟨test, after, ran, both⟩ : ∃ test after, Lower.compileTest .none {} Demo.settingsReset
      { statics := [Demo.voidLevel, Demo.resetResult] }
      ({ loader := Demo.loader [] } : Session) = .ok test after ∧
      (test.test.typeOf? ⟨0⟩ == some .void && test.test.statements.any Statement.keepsResult)
        = true :=
    exists_ok_of_any_run' (by decide +kernel)
  obtain ⟨typed, kept⟩ := Bool.and_eq_true_iff.mp both
  have isVoid := beq_iff_eq.mp typed
  obtain ⟨level, calls⟩ := compileTest_void _ _ _ _ _ ran
  refine ⟨test, after, ⟨0⟩, ran, isVoid, level ⟨0⟩ .void isVoid rfl, ?_⟩
  obtain ⟨statement, member, keeps⟩ := List.any_eq_true.mp kept
  obtain ⟨position, there⟩ := List.mem_iff_getElem?.mp member
  unfold Statement.keepsResult at keeps
  split at keeps
  · exact ⟨position, _, _, _, _, there, calls position _ _ _ _ there⟩
  · cases keeps

/-- Whether a statement keeps the result of a method that returns void. -/
def Statement.keepsVoid : Statement → Bool
  | .method handle _ _ (some _) => handle.returns == "void"
  | _ => false

/-- A test that is compiled can have a variable of type void, and keep the result of a method
that returns void. -/
theorem compileTest_void_kept :
    ∃ (test : CompiledTest) (after : Session),
      Lower.compileTest .none {} Demo.settingsReset
        { statics := [Demo.voidLevel, Demo.resetResult] } { loader := Demo.loader [] }
          = .ok test after ∧
      (∃ var, test.test.typeOf? var = some .void) ∧
      ∃ handle callee args var, .method handle callee args (some var) ∈ test.test.statements ∧
        handle.returns = "void" := by
  obtain ⟨test, after, ran, both⟩ : ∃ test after, Lower.compileTest .none {} Demo.settingsReset
      { statics := [Demo.voidLevel, Demo.resetResult] }
      ({ loader := Demo.loader [] } : Session) = .ok test after ∧
      (test.test.typeOf? ⟨0⟩ == some .void && test.test.statements.any Statement.keepsVoid)
        = true :=
    exists_ok_of_any_run' (by decide +kernel)
  obtain ⟨typed, kept⟩ := Bool.and_eq_true_iff.mp both
  obtain ⟨statement, member, keeps⟩ := List.any_eq_true.mp kept
  refine ⟨test, after, ran, ⟨⟨0⟩, beq_iff_eq.mp typed⟩, ?_⟩
  unfold Statement.keepsVoid at keeps
  split at keeps
  · exact ⟨_, _, _, _, member, beq_iff_eq.mp keeps⟩
  · cases keeps

end TestPlan
