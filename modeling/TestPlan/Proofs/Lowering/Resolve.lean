import TestPlan.Lowering.Resolve

/-! Lookups do nothing to a loader but load classes, and fail only for what the classes lack. -/

namespace TestPlan

variable {ρ : Type} [ClassLoading ρ] {α β : Type}

/-- The states that a loader comes to by loading classes, found or not. -/
inductive Loads : ρ → ρ → Prop
  | refl (loader : ρ) : Loads loader loader
  | found {start loader after : ρ} {name : String} {loaded : LoadedClass} :
      Loads start loader → ClassLoading.load name loader = .ok loaded after → Loads start after
  | missing {start loader after : ρ} {name : String} {failure : ClassNotFound} :
      Loads start loader → ClassLoading.load name loader = .error failure after →
        Loads start after

/-- Loading may be continued. -/
theorem Loads.trans {start middle last : ρ} (first : Loads start middle)
    (second : Loads middle last) : Loads start last := by
  induction second with
  | refl => exact first
  | found _ loaded ih => exact .found ih loaded
  | missing _ failed ih => exact .missing ih failed

/-- A lookup that only loads classes, and fails only when a class or member is missing. -/
def Plain (lookup : Lookup ρ α) : Prop :=
  ∀ loader, match lookup loader with
    | .ok _ after => Loads loader after
    | .error error after => Loads loader after ∧ error.isClassModelMismatch = true

namespace Plain

/-- A result at hand needs no loading. -/
theorem pure (found : α) : Plain (Pure.pure found : Lookup ρ α) :=
  fun loader => Loads.refl loader

/-- Reading the state of the loader needs no loading. -/
theorem get : Plain (MonadState.get : Lookup ρ ρ) :=
  fun loader => Loads.refl loader

/-- A lookup may fail for what the classes lack. -/
theorem throw {error : CompileError} (mismatch : error.isClassModelMismatch = true) :
    Plain (MonadExcept.throw error : Lookup ρ α) :=
  fun loader => ⟨Loads.refl loader, mismatch⟩

/-- One lookup after another loads what both load. -/
theorem bind {lookup : Lookup ρ α} {next : α → Lookup ρ β} (first : Plain lookup)
    (rest : ∀ found, Plain (next found)) : Plain (lookup >>= next) := by
  intro loader
  have first := first loader
  simp only [Bind.bind, EStateM.bind]
  revert first
  cases lookup loader with
  | error error middle => exact id
  | ok found middle =>
    -- The second lookup starts where the first one has stopped.
    have rest := rest found middle
    dsimp only
    revert rest
    cases next found middle with
    | ok result last => exact fun rest first => first.trans rest
    | error error last => exact fun rest first => ⟨first.trans rest.1, rest.2⟩

/-- A lookup for each of some inputs loads what all of them load. -/
theorem mapM {lookup : α → Lookup ρ β} (each : ∀ input, Plain (lookup input)) (inputs : List α) :
    Plain (inputs.mapM lookup) := by
  -- The induction is on the inputs, each looked up before the ones after it.
  induction inputs with
  | nil => exact Plain.pure []
  | cons input rest ih =>
    rw [List.mapM_cons]
    exact (each input).bind fun found => ih.bind fun others => Plain.pure (found :: others)

end Plain

namespace Resolve

/-- Loading a class is a lookup. -/
theorem load_plain (name : String) : Plain (load name : Lookup ρ LoadedClass) := by
  intro loader
  simp only [load, EStateM.adaptExcept]
  -- A class that is not found is remembered as well, so the loader may change in both cases.
  cases loaded : ClassLoading.load name loader with
  | ok found after => exact .found (.refl loader) loaded
  | error failure after => exact ⟨.missing (.refl loader) loaded, rfl⟩

/-- A type of a plan is found by loading its class, if it has one. -/
theorem runtimeType_plain (type : ValueType) :
    Plain (runtimeType type : Lookup ρ RuntimeType) := by
  induction type with
  | void => exact Plain.pure _
  | primitive type => exact Plain.pure _
  | object className => exact (load_plain _).bind fun _ => Plain.pure _
  | array component ih => exact ih.bind fun _ => Plain.pure _

/-- The type of a name without brackets is found by loading its class, if it has one. -/
theorem elementNamed_plain (name : String) : Plain (elementNamed name : Lookup ρ RuntimeType) := by
  unfold elementNamed
  split
  · exact Plain.pure _
  · cases Primitive.ofKeyword? name with
    | some type => exact Plain.pure _
    | none => exact (load_plain name).bind fun _ => Plain.pure _

/-- The type of a name is found through that of its elements. -/
theorem typeNamed_plain (name : String) : Plain (typeNamed name : Lookup ρ RuntimeType) :=
  (elementNamed_plain _).bind fun _ => Plain.pure _

/-- The names of parameter types are found one by one. -/
theorem signature_plain (params : List ValueType) :
    Plain (signature params : Lookup ρ (List String)) :=
  Plain.mapM (fun param => (runtimeType_plain param).bind fun _ => Plain.pure _) params

/-- A chain of superclasses is loaded class by class. -/
theorem chainFrom_plain (seen : List String) (bound : Nat) (loaded : LoadedClass) :
    Plain (chainFrom seen bound loaded : Lookup ρ (List LoadedClass)) := by
  -- The induction is on the bound, and what has been seen grows along the chain.
  induction bound generalizing seen loaded with
  | zero => exact Plain.pure _
  | succ bound ih =>
    unfold chainFrom
    split
    · -- The chain ends at a class that has been seen.
      exact Plain.pure _
    · split
      · exact Plain.pure _
      · rename_i parent _
        exact (load_plain parent).bind fun above =>
          (ih _ above).bind fun _ => Plain.pure _

/-- All superclasses of a class are loaded. -/
theorem superclassChain_plain (loaded : LoadedClass) :
    Plain (superclassChain loaded : Lookup ρ (List LoadedClass)) :=
  Plain.get.bind fun _ => chainFrom_plain [] _ loaded

/-- A constructor is looked for on a loaded class. -/
theorem constructorOn_plain (loaded : LoadedClass) (params : List String) :
    Plain (constructorOn loaded params : Lookup ρ (LoadedClass × ConstructorHandle)) := by
  unfold constructorOn
  split
  · exact Plain.pure _
  · exact Plain.throw rfl

/-- A referenced constructor is found by loading its class and parameter types. -/
theorem constructor_plain (method : MethodReference) :
    Plain (constructor method : Lookup ρ (LoadedClass × ConstructorHandle)) :=
  (load_plain _).bind fun loaded =>
    (signature_plain method.params).bind fun params => constructorOn_plain loaded params

/-- A constructor without parameters is found by loading its class. -/
theorem defaultConstructor_plain (className : String) :
    Plain (defaultConstructor className : Lookup ρ (LoadedClass × ConstructorHandle)) :=
  (load_plain _).bind fun loaded => constructorOn_plain loaded []

/-- A method is found by loading its class and the superclasses. -/
theorem methodNamed_plain (className name : String) (params : List String) :
    Plain (methodNamed className name params : Lookup ρ MethodHandle) := by
  refine (load_plain className).bind fun loaded =>
    (superclassChain_plain loaded).bind fun chain => ?_
  split
  · exact Plain.pure _
  · exact Plain.throw rfl

/-- A referenced method is found by loading its parameter types and classes. -/
theorem method_plain (method : MethodReference) :
    Plain (Resolve.method method : Lookup ρ MethodHandle) :=
  (signature_plain method.params).bind fun params => methodNamed_plain _ method.name params

/-- A referenced field is found by loading its class and the superclasses. -/
theorem field_plain (field : FieldReference) :
    Plain (Resolve.field field : Lookup ρ FieldHandle) := by
  refine (load_plain _).bind fun start => (superclassChain_plain start).bind fun chain => ?_
  split
  · exact Plain.pure _
  · exact Plain.throw rfl

/-- An enum constant is looked for on a loaded class. -/
theorem enumConstant_plain (loaded : LoadedClass) (name : String) :
    Plain (enumConstant loaded name : Lookup ρ Constant) := by
  unfold enumConstant
  split
  · exact Plain.pure _
  · exact Plain.throw rfl

/-- A helper routine is found by loading the helper class. -/
theorem helper_plain (helperClass name : String) :
    Plain (helper helperClass name : Lookup ρ HelperRoutine) := by
  refine (load_plain helperClass).bind fun loaded => ?_
  split
  · exact Plain.pure _
  · exact Plain.throw rfl

end Resolve

end TestPlan
