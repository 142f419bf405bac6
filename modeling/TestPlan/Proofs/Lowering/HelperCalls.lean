import TestPlan.Demo.Plans
import TestPlan.Proofs.Config.Routines
import TestPlan.Proofs.Lowering.WritingPlans

/-!
Every call of a helper routine has the arguments and result of a routine that the helper class
defines.
-/

namespace TestPlan

/--
A routine of the helper class that a call can be of, for a purpose if it is that of a family: it
has the name, takes as many arguments, and gives and takes values of the types of the call or of
any type.
-/
structure HelperLibrary.Fits (library : HelperLibrary) (test : TestCase)
    (purpose : Option HelperPurpose) (helper : HelperRoutine) (args : List Operand)
    (result : Option Var) (method : MethodDefinition) : Prop where
  defined : method ∈ library.classDefinition.methods
  named : method.name = helper.name
  isStatic : method.isStatic = true
  arity : method.params.length = args.length
  returns_void_iff : method.returns = "void" ↔ result = none
  returns : ∀ var, result = some var → method.returns = objectClass ∨
    ∃ type, test.typeOf? var = some type ∧ method.returns = type.typeName
  stores : purpose = some .setField ∨ purpose = some .setElement →
    ∃ value param, args.getLast? = some value ∧ method.params.getLast? = some param ∧
      (param = objectClass ∨ test.operandTypeName? value = some param)

namespace Setting

variable {ρ : Type} [ClassLoading ρ] {setting : Setting ρ} {built : CompiledTest}
  {helper : HelperRoutine}

/-- The routine that creates objects fits a call with the name of a class. -/
theorem FindsRoutine.fits_newInstance {name : Operand} {result : Var}
    (finds : setting.FindsRoutine setting.config.helpers.newInstance helper) :
    ∃ method, setting.config.helpers.Fits built.test none helper [name] (some result) method :=
  ⟨_, {
    defined := setting.config.helpers.newInstance_mem
    named := (Finds.helper_name finds).symm
    isStatic := rfl
    arity := rfl
    returns_void_iff := iff_of_false objectClass_ne_void nofun
    returns := fun _ _ => .inl rfl
    stores := nofun }⟩

namespace FindsFamily

/-- A routine that creates arrays fits a call that names the elements only when it must. -/
theorem fits_newArray {element : RuntimeType} {length : Operand} {result : Var}
    (finds : setting.FindsFamily .newArray element.typeName helper)
    (typed : built.test.typeOf? result = some (.array element)) :
    ∃ method, setting.config.helpers.Fits built.test (some .newArray) helper
      (setting.arrayArguments (.array element) length) (some result) method := by
  have named := (Finds.helper_name finds).symm
  -- The arguments are chosen by the same question as the routine.
  cases found : setting.config.helpers.newArray.specializedFor? element.typeName with
  | some routine =>
    have args : setting.arrayArguments (.array element) length = [length] := by
      simp [arrayArguments, RuntimeType.component?, found]
    exact ⟨_, {
      defined := setting.config.helpers.special_mem_methods .newArray found
      named
      isStatic := rfl
      arity := by rw [args]; rfl
      returns_void_iff := iff_of_false (append_brackets_ne _ (by decide)) nofun
      returns := fun _ same => .inr ⟨_, Option.some.inj same ▸ typed, rfl⟩
      stores := nofun }⟩
  | none =>
    have args : setting.arrayArguments (.array element) length =
        [.constant (.text element.typeName), length] := by
      simp [arrayArguments, RuntimeType.component?, found]
    exact ⟨_, {
      defined := setting.config.helpers.generic_mem_methods .newArray found
      named
      isStatic := rfl
      arity := by rw [args]; rfl
      returns_void_iff := iff_of_false objectClass_ne_void nofun
      returns := fun _ _ => .inl rfl
      stores := nofun }⟩

variable {purpose : HelperPurpose} {args : List Operand}

/-- A routine that gives a value fits a call whose result is of the type of the value. -/
theorem fits_get {type : RuntimeType} {result : Var}
    (finds : setting.FindsFamily purpose type.typeName helper)
    (unambiguous : (setting.config.helpers.family purpose).Unambiguous)
    (gets : purpose = .getField ∨ purpose = .getElement)
    (arity : (HelperLibrary.routineParams objectClass purpose).length = args.length)
    (typed : built.test.typeOf? result = some type) :
    ∃ method, setting.config.helpers.Fits built.test (some purpose) helper args (some result)
      method := by
  have named := (Finds.helper_name finds).symm
  -- Both families give what they are for and store nothing.
  rcases gets with rfl | rfl
  all_goals
    obtain ⟨served, either, notVoid, defined⟩ :=
      setting.config.helpers.exists_mem_methods _ unambiguous nofun type.typeName
    exact ⟨_, {
      defined
      named
      isStatic := rfl
      arity
      returns_void_iff := iff_of_false notVoid nofun
      returns := fun _ same => either.imp_right fun same' =>
        ⟨type, Option.some.inj same ▸ typed, same'⟩
      stores := nofun }⟩

/-- A routine that stores a value fits a call whose last argument is of the type of the value. -/
theorem fits_set {type : String} {value : Operand}
    (finds : setting.FindsFamily purpose type helper)
    (unambiguous : (setting.config.helpers.family purpose).Unambiguous)
    (sets : purpose = .setField ∨ purpose = .setElement)
    (arity : (HelperLibrary.routineParams objectClass purpose).length = args.length)
    (last : args.getLast? = some value) (typed : built.test.operandTypeName? value = some type) :
    ∃ method, setting.config.helpers.Fits built.test (some purpose) helper args none method := by
  have named := (Finds.helper_name finds).symm
  -- Both families give nothing and take the value after all else.
  rcases sets with rfl | rfl
  all_goals
    obtain ⟨served, either, -, defined⟩ :=
      setting.config.helpers.exists_mem_methods _ unambiguous nofun type
    exact ⟨_, {
      defined
      named
      isStatic := rfl
      arity
      returns_void_iff := iff_of_true rfl rfl
      returns := nofun
      stores := fun _ => ⟨value, served, last, rfl, either.imp_right fun same =>
        typed.trans (congrArg some same.symm)⟩ }⟩

end FindsFamily

/-- The call of a reflective step fits a routine of the helper class. -/
theorem PerformsReflective.exists_fits {owner : String} {position : Nat} {step : ReflectiveAction}
    {args : List Operand} {result : Option Var}
    (performs : setting.PerformsReflective built owner position step
      (.reflection helper args result))
    (unambiguous : ∀ purpose, (setting.config.helpers.family purpose).Unambiguous) :
    ∃ method, setting.config.helpers.Fits built.test step.purpose? helper args result method := by
  -- What is read and stored is left to the families; here only the arguments are counted.
  cases performs with
  | newInstance _ finds => exact finds.fits_newInstance
  | newArray finds isArray _ family owns =>
    obtain ⟨component, rfl⟩ := finds.exists_array isArray
    obtain ⟨element, _, rfl⟩ := finds.component
    exact family.fits_newArray owns.typed
  | arrayRead _ _ _ family owns =>
    exact family.fits_get (unambiguous _) (.inr rfl) rfl owns.typed
  | getField _ _ family locates owns | getStaticField _ _ _ family locates owns =>
    obtain ⟨_, _, rfl⟩ := locates
    exact family.fits_get (unambiguous _) (.inl rfl) rfl owns.typed
  | arrayWrite _ _ _ serves =>
    obtain ⟨_, typed, family⟩ := serves
    exact family.fits_set (unambiguous _) (.inr rfl) rfl rfl typed
  | setField _ _ serves locates | setStaticField _ _ _ serves locates =>
    obtain ⟨_, typed, family⟩ := serves
    obtain ⟨_, _, rfl⟩ := locates
    exact family.fits_set (unambiguous _) (.inl rfl) rfl rfl typed

end Setting

/--
With a valid helper library, every helper call of a test that is compiled is the call of a
reflective step, and fits a routine of the helper class for whatever step it is the call of.
-/
theorem compileTest_fits {ρ : Type} [ClassLoading ρ] (sharing : Sharing) (loader : ρ)
    (config : CompilerConfig) (valid : config.helpers.validate = .ok ()) (method : MethodReference)
    (parameters : Parameters) {test : CompiledTest} {after : Compilation ρ}
    (compiled : Lower.compileTest sharing config method parameters { loader } = .ok test after)
    (position : Nat) (helper : HelperRoutine) (args : List Operand) (result : Option Var)
    (there : test.At position (.reflection helper args result)) :
    (∃ plan step, (Setting.mk config loader parameters.roots).Wrote test position
      (.reflective plan step)) ∧
      ∀ plan step, (Setting.mk config loader parameters.roots).Wrote test position
        (.reflective plan step) →
          ∃ routine, config.helpers.Fits test.test step.purpose? helper args result routine := by
  obtain ⟨rfl, sound⟩ := Lower.compileTest_sound compiled
  constructor
  · -- Some author has written the statement, and only a reflective step can have.
    obtain ⟨author, signed⟩ := sound.exists_author there
    obtain ⟨plan, step, rfl, -⟩ := signed.wrote.performsReflective there
    exact ⟨plan, step, signed.wrote⟩
  · intro plan step wrote
    obtain ⟨_, _, ⟨⟩, performs⟩ := wrote.performsReflective there
    exact performs.exists_fits (HelperLibrary.unambiguous_of_validate valid)

/-- A library in which fields are read and set by routines of one name. -/
def Demo.accessors : HelperLibrary where
  getField := { generic := "access" }
  setField := { generic := "access" }

/-- The distance to a point in which a box's number is set to the level of the settings. -/
def Demo.levelling : Parameters where
  receiver := some (pointAt "p" 1 2)
  arguments := [.mk "q" (.reflection [.newInstance pointType,
    .setField boxSecret (.mk "level" (.reflection [.getStaticField settingsLevel]))])]

/-- Of two routines of one name, each call fits one. -/
theorem compileTest_fits_levelling :
    ∃ (test : CompiledTest) (after : Session), Demo.accessors.validate = .ok () ∧
      Lower.compileTest .none { helpers := Demo.accessors } Demo.pointDistance Demo.levelling
        { loader := Demo.loader [Demo.accessors.classDefinition] } = .ok test after ∧
      Demo.helperNames test.test = ["newInstance", "access", "access"] ∧
      ∀ position helper args result, test.At position (.reflection helper args result) →
        let setting := Setting.mk { helpers := Demo.accessors }
          (Demo.loader [Demo.accessors.classDefinition]) Demo.levelling.roots
        (∃ plan step, setting.Wrote test position (.reflective plan step)) ∧
          ∀ plan step, setting.Wrote test position (.reflective plan step) →
            ∃ routine, Demo.accessors.Fits test.test step.purpose? helper args result routine := by
  have valid : Demo.accessors.validate = .ok () := by decide +kernel
  obtain ⟨test, after, ran, helpers⟩ : ∃ test after, Lower.compileTest .none
      { helpers := Demo.accessors } Demo.pointDistance Demo.levelling
      ({ loader := Demo.loader [Demo.accessors.classDefinition] } : Session) = .ok test after ∧
        (Demo.helperNames test.test == ["newInstance", "access", "access"]) = true :=
    exists_ok_of_any_run' (by decide +kernel)
  exact ⟨test, after, valid, ran, beq_iff_eq.mp helpers, compileTest_fits _ _
    { helpers := Demo.accessors } valid Demo.pointDistance Demo.levelling ran⟩

end TestPlan
