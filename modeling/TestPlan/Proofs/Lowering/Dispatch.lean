import TestPlan.Demo.Plans
import TestPlan.Proofs.Config.Routines
import TestPlan.Proofs.Lowering.WritingPlans

/-!
Direct steps do without the helpers, and each reflective step calls the routine for the type of the
value that it deals with.
-/

namespace TestPlan

/-! ### Primitive types -/

/-- The primitive type that a type is, if it is one. -/
def ValueType.primitive? : ValueType → Option Primitive
  | .primitive type => some type
  | _ => none

/-- The primitive type that a type of the running program is, if it is one. -/
def RuntimeType.primitive? : RuntimeType → Option Primitive
  | .primitive type => some type
  | _ => none

/-- The primitive type of an operand, if it is of one. -/
def TestCase.operandPrimitive? (test : TestCase) : Operand → Option Primitive
  | .var source => (test.typeOf? source).bind RuntimeType.primitive?
  | .constant value => value.primitive?

/-- A primitive constant is of the type with the keyword of its type. -/
theorem Constant.typeName_of_primitive? {value : Constant} {type : Primitive}
    (known : value.primitive? = some type) : value.typeName = type.keyword := by
  cases value <;> cases known <;> rfl

/-- The constant of a literal or text has the name of a primitive type only when it is of it. -/
theorem Plan.typeName_eq_keyword_iff {plan : Plan} {value : Constant}
    (isConstant : plan.constant? = some value) (primitive : Primitive) :
    value.typeName = primitive.keyword ↔ value.primitive? = some primitive := by
  obtain ⟨name, kind⟩ := plan
  cases kind with
  | primitive literal =>
    obtain ⟨type, known⟩ : ∃ type, value.primitive? = some type := by
      cases literal <;> cases isConstant <;> exact ⟨_, rfl⟩
    rw [Constant.typeName_of_primitive? known, known]
    exact Primitive.keyword_injective.eq_iff.trans Option.some_inj.symm
  | text text =>
    cases isConstant
    exact ⟨fun same => absurd same.symm primitive.keyword_ne_stringClass, nofun⟩
  | actions | reflection | testCall | mock | unknown => cases isConstant

/-- No class is named like a primitive type. -/
def ClassSpace.PlainNames (space : ClassSpace) : Prop :=
  ∀ name ∈ space.definedNames, Primitive.ofKeyword? name = none

/-- The name of a class that is found is among those of the class space. -/
theorem ClassSpace.mem_definedNames {space : ClassSpace} {name : String} {loaded : LoadedClass}
    (found : space.find name = .ok loaded) : loaded.name ∈ space.definedNames := by
  obtain ⟨source, searched, first⟩ := exists_source_of_find found
  -- The sources that are searched for a name are all of them, or those of the host layer.
  have among : source ∈ space.sources := by
    unfold sourcesFor at searched
    split at searched
    · exact (List.mem_filter.mp searched).1
    · exact searched
  exact List.mem_flatMap.mpr ⟨source, among, List.mem_map.mpr
    ⟨loaded.definition, List.mem_of_find?_eq_some first, rfl⟩⟩

namespace Setting

variable {setting : Setting Loader} {built : CompiledTest}

/-- A type is primitive when the type of a plan is that it stands for. -/
theorem Finds.primitive?_eq {type : ValueType} {found : RuntimeType}
    (finds : setting.Finds (Resolve.runtimeType type) found) :
    found.primitive? = type.primitive? := by
  cases type with
  | void | primitive =>
    cases finds.eq_of_pure
    rfl
  | object className =>
    obtain ⟨loaded, _, last⟩ := finds.of_bind (Resolve.load_plain _)
    cases last.eq_of_pure
    rfl
  | array component =>
    obtain ⟨_, _, rfl⟩ := finds.component
    rfl

/-- A type has the name of a primitive type only when it is that type. -/
theorem Finds.typeName_eq_keyword_iff (plain : setting.loader.space.PlainNames) {type : ValueType}
    {found : RuntimeType} (finds : setting.Finds (Resolve.runtimeType type) found)
    (primitive : Primitive) :
    found.typeName = primitive.keyword ↔ type.primitive? = some primitive := by
  rw [← finds.primitive?_eq]
  cases type with
  | void =>
    cases finds.eq_of_pure
    exact ⟨fun same => absurd same.symm primitive.keyword_ne_void, nofun⟩
  | primitive type =>
    cases finds.eq_of_pure
    exact Primitive.keyword_injective.eq_iff.trans Option.some_inj.symm
  | object className =>
    -- The type of a class has the name of the class, which is no keyword.
    obtain ⟨loaded, loads, last⟩ := finds.of_bind (Resolve.load_plain _)
    cases last.eq_of_pure
    refine ⟨fun same => ?_, nofun⟩
    have named := plain _ (ClassSpace.mem_definedNames loads.inSpace)
    rw [show loaded.name = primitive.keyword from same, primitive.ofKeyword?_keyword] at named
    cases named
  | array component =>
    obtain ⟨_, _, rfl⟩ := finds.component
    exact ⟨fun same => absurd same (Primitive.append_brackets_ne_keyword _ _), nofun⟩

/-! ### Routines for types -/

/-- A routine that is found for the type of a name serves the primitive type that it names. -/
theorem FindsFamily.serves {purpose : HelperPurpose} {name : String} {helper : HelperRoutine}
    (finds : setting.FindsFamily purpose name helper)
    (unambiguous : (setting.config.helpers.family purpose).Unambiguous) {type : Option Primitive}
    (named : ∀ primitive : Primitive, name = primitive.keyword ↔ type = some primitive) :
    (setting.config.helpers.family purpose).Serves type helper.name := by
  rw [Finds.helper_name finds]
  exact unambiguous.serves_select named

/-- The variables of plans are of types that plans can have. -/
def Typed (setting : Setting Loader) (built : CompiledTest) : Prop :=
  ∀ name var, built.bindings.get? name = some var → ∃ declared type,
    setting.Finds (Resolve.runtimeType declared) type ∧ built.test.typeOf? var = some type

/-- The name of the type of an operand is that of the primitive type that the operand is of. -/
theorem Typed.typeName_eq_keyword_iff (typed : setting.Typed built)
    (plain : setting.loader.space.PlainNames) {plan : Plan} {operand : Operand} {name : String}
    (denotes : built.Denotes plan operand) (known : built.test.operandTypeName? operand = some name)
    (primitive : Primitive) :
    name = primitive.keyword ↔ built.test.operandPrimitive? operand = some primitive := by
  cases denotes with
  | var bound =>
    -- A variable is of a type that a plan declares, wherever it has been defined.
    obtain ⟨declared, type, finds, found⟩ := typed _ _ bound
    simp only [TestCase.operandTypeName?, TestCase.operandPrimitive?, found, Option.map_some,
      Option.some_inj, Option.bind_some] at known ⊢
    rw [← known, finds.primitive?_eq]
    exact finds.typeName_eq_keyword_iff plain primitive
  | constant isConstant =>
    cases known
    exact Plan.typeName_eq_keyword_iff isConstant primitive

/-- A routine that is found for an operand serves the primitive type of the operand. -/
theorem FindsOperand.serves {purpose : HelperPurpose} {plan : Plan} {operand : Operand}
    {helper : HelperRoutine} (finds : setting.FindsOperand built purpose operand helper)
    (unambiguous : (setting.config.helpers.family purpose).Unambiguous)
    (typed : setting.Typed built) (plain : setting.loader.space.PlainNames)
    (denotes : built.Denotes plan operand) :
    (setting.config.helpers.family purpose).Serves (built.test.operandPrimitive? operand)
      helper.name := by
  obtain ⟨name, known, finds⟩ := finds
  exact finds.serves unambiguous (typed.typeName_eq_keyword_iff plain denotes known)

end Setting

/-! ### Reflective steps -/

/--
The primitive type, if it is one, of the value that a step deals with: the elements of a new array,
what is read, or the value to be stored, which is the last of the arguments.
-/
def ReflectiveAction.servedType? (test : TestCase) (args : List Operand) :
    ReflectiveAction → Option Primitive
  | .newInstance _ => none
  | .newArray (.array component) _ => component.primitive?
  | .newArray _ _ => none
  | .arrayRead _ _ elementType => elementType.primitive?
  | .getField _ field
  | .getStaticField field => field.type.primitive?
  | .arrayWrite _ _
  | .setField _ _
  | .setStaticField _ _ => args.getLast?.bind test.operandPrimitive?

namespace Setting

variable {setting : Setting Loader} {built : CompiledTest}

/-- A reflective step calls the routine of its family for the type of its value. -/
theorem PerformsReflective.serves {owner : String} {position : Nat} {step : ReflectiveAction}
    {helper : HelperRoutine} {args : List Operand} {result : Option Var}
    (performs : setting.PerformsReflective built owner position step
      (.reflection helper args result))
    (unambiguous : ∀ purpose, (setting.config.helpers.family purpose).Unambiguous)
    (typed : setting.Typed built) (plain : setting.loader.space.PlainNames)
    (purpose : HelperPurpose) (serves : purpose ∈ step.purpose?) :
    (setting.config.helpers.family purpose).Serves (step.servedType? built.test args)
      helper.name := by
  -- Each kind of step looks its routine up for a type of its own.
  cases performs with
  | newInstance => cases serves
  | newArray finds isArray _ family _ =>
    cases serves
    -- A new array is served for the type of its elements.
    obtain ⟨component, rfl⟩ := finds.exists_array isArray
    obtain ⟨element, elements, rfl⟩ := finds.component
    exact family.serves (unambiguous _) (elements.typeName_eq_keyword_iff plain)
  | arrayRead _ _ finds family _ =>
    cases serves
    exact family.serves (unambiguous _) (finds.typeName_eq_keyword_iff plain)
  | getField _ finds family _ _ | getStaticField _ _ finds family _ _ =>
    cases serves
    exact family.serves (unambiguous _) (finds.typeName_eq_keyword_iff plain)
  | arrayWrite _ _ denotes family =>
    cases serves
    exact family.serves (unambiguous _) typed plain denotes
  | setField _ denotes family locates | setStaticField _ _ denotes family locates =>
    cases serves
    obtain ⟨_, _, rfl⟩ := locates
    exact family.serves (unambiguous _) typed plain denotes

/-! ### Statements and their authors -/

/--
What a statement may be for its author: helper calls are for reflective steps only, which have no
other statements but the null that the next call reads in place of an object.
-/
inductive Admits (setting : Setting Loader) (built : CompiledTest) (position : Nat) :
    Author → Statement → Prop
  | direct {plan : Plan} {step : Action} {statement : Statement} :
      statement.isReflection = false → Admits setting built position (.direct plan step) statement
  | leaf {plan : Plan} {statement : Statement} :
      statement.isReflection = false → Admits setting built position (.leaf plan) statement
  | call {call : TestCall} {statement : Statement} :
      statement.isReflection = false → Admits setting built position (.call call) statement
  | helper {plan : Plan} {step : ReflectiveAction} {helper : HelperRoutine} {args : List Operand}
      {result : Option Var} :
      (∀ purpose ∈ step.purpose?, (setting.config.helpers.family purpose).Serves
        (step.servedType? built.test args) helper.name) →
        Admits setting built position (.reflective plan step) (.reflection helper args result)
  | receiver {plan : Plan} {step : ReflectiveAction} {object : Var} {helper : HelperRoutine}
      {args : List Operand} {result : Option Var} :
      step.isStaticAccess = true →
      setting.Wrote built (position + 1) (.reflective plan step) →
      built.At (position + 1) (.reflection helper (.var object :: args) result) →
        Admits setting built position (.reflective plan step) (.null object)

/-- A reflective step admits the call that it makes. -/
theorem PerformsReflective.admits {plan : Plan} {position : Nat} {step : ReflectiveAction}
    {statement : Statement}
    (performs : setting.PerformsReflective built plan.name position step statement)
    (unambiguous : ∀ purpose, (setting.config.helpers.family purpose).Unambiguous)
    (typed : setting.Typed built) (plain : setting.loader.space.PlainNames) :
    setting.Admits built position (.reflective plan step) statement := by
  obtain ⟨helper, args, result, rfl⟩ := performs.exists_reflection
  exact .helper (performs.serves unambiguous typed plain)

/-- An author of the statement at a position admits it. -/
theorem Wrote.admits {position : Nat} {author : Author} {statement : Statement}
    (wrote : setting.Wrote built position author) (there : built.At position statement)
    (unambiguous : ∀ purpose, (setting.config.helpers.family purpose).Unambiguous)
    (typed : setting.Typed built) (plain : setting.loader.space.PlainNames) :
    setting.Admits built position author statement := by
  cases wrote with
  | direct _ here performs =>
    cases here.symm.trans there
    exact .direct performs.isReflection
  | reflective _ here performs =>
    cases here.symm.trans there
    exact performs.admits unambiguous typed plain
  | receiver has isStatic next performs =>
    -- The call that follows tells which null it reads.
    obtain ⟨helper, object, args, result, rfl, null⟩ := performs.reads_null isStatic
    cases null.symm.trans there
    exact .receiver isStatic (.reflective has next performs) next
  | leaf _ prescribed => exact .leaf (prescribed.isReflection there)
  | call invokes here =>
    cases here.symm.trans there
    exact .call invokes.isReflection

end Setting

/-! ### Compiled tests -/

/--
In a test that is compiled, every statement has an author, a step or literal of a needed plan or a
call that is asked for, and whatever can be an author of a statement admits it: direct steps do
without the helpers, and reflective steps call the routine of their family for the type of their
value. All sources of classes are in memory.
-/
theorem compileTest_dispatch (sharing : Sharing) (loader : Loader) (plain : loader.space.PlainNames)
    (config : CompilerConfig) (valid : config.validate = .ok ()) (method : MethodReference)
    (parameters : Parameters) {test : CompiledTest} {after : Session}
    (compiled : Lower.compileTest sharing config method parameters { loader } = .ok test after)
    (position : Nat) (statement : Statement) (there : test.At position statement) :
    (∃ author, (Setting.mk config loader parameters.roots).WroteFor (parameters.testCall method)
      test position author) ∧
      ∀ author, (Setting.mk config loader parameters.roots).Wrote test position author →
        (Setting.mk config loader parameters.roots).Admits test position author statement := by
  obtain ⟨rfl, sound⟩ := Lower.compileTest_sound compiled
  constructor
  · exact sound.exists_author there
  · intro author wrote
    -- Variables are of declared types in the finished test, whatever the statement is.
    have typed : (Setting.mk config loader parameters.roots).Typed after.compiled := by
      intro name var bound
      obtain ⟨type, typed, _, declared, _, _, _, finds⟩ := sound.typed name var bound
      exact ⟨declared, type, finds, typed⟩
    exact wrote.admits there
      (HelperLibrary.unambiguous_of_validate (CompilerConfig.helpers_of_validate valid)) typed plain

/-- The sum of an array that is made through the helpers, with a static field as its element. -/
def Demo.summing : Parameters where
  arguments := [.mk "a" (.reflection
    [.newArray (.array intType) (int "length" 1),
      .arrayWrite (int "i" 0) (.mk "level" (.reflection [.getStaticField settingsLevel]))])]

/-- The array, the static field and the element are all served by the routines for integers. -/
theorem compileTest_dispatch_summing :
    ∃ (test : CompiledTest) (after : Session),
      (Demo.loader [({} : HelperLibrary).classDefinition]).space.PlainNames ∧
      ({} : CompilerConfig).validate = .ok () ∧
      Lower.compileTest .none {} Demo.pointSum Demo.summing
        { loader := Demo.loader [({} : HelperLibrary).classDefinition] } = .ok test after ∧
      Demo.helperNames test.test = ["newIntArray", "getIntField", "setIntElement"] ∧
      ∀ position statement, test.At position statement →
        let setting := Setting.mk {} (Demo.loader [({} : HelperLibrary).classDefinition])
          Demo.summing.roots
        (∃ author, setting.WroteFor (Demo.summing.testCall Demo.pointSum) test position author) ∧
          ∀ author, setting.Wrote test position author →
            setting.Admits test position author statement := by
  have plain : (Demo.loader [({} : HelperLibrary).classDefinition]).space.PlainNames := by
    unfold ClassSpace.PlainNames
    decide +kernel
  have valid : ({} : CompilerConfig).validate = .ok () := by decide +kernel
  obtain ⟨test, after, ran, helpers⟩ : ∃ test after, Lower.compileTest .none {} Demo.pointSum
      Demo.summing ({ loader := Demo.loader [({} : HelperLibrary).classDefinition] } : Session)
        = .ok test after ∧
          (Demo.helperNames test.test == ["newIntArray", "getIntField", "setIntElement"]) = true :=
    exists_ok_of_any_run' (by decide +kernel)
  exact ⟨test, after, plain, valid, ran, beq_iff_eq.mp helpers,
    compileTest_dispatch _ _ plain {} valid Demo.pointSum Demo.summing ran⟩

end TestPlan
