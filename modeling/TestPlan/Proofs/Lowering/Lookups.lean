import TestPlan.Lowering.Resolve
import TestPlan.Proofs.Parallel

/-! Lookups find the same through loaders that load the same classes. -/

namespace TestPlan

variable {ρ : Type} [ClassLoading ρ] {α β : Type}

/-- Related loaders load the same classes, and are related again afterwards. -/
structure SameClasses (loaders : ρ → ρ → Prop) : Prop where
  load : ∀ name, Parallel loaders Eq Eq
    (ClassLoading.load name : EStateM ClassNotFound ρ LoadedClass) (ClassLoading.load name)
  chainBound : ∀ {loader loader' : ρ} (loaded : LoadedClass), loaders loader loader' →
    ClassLoading.chainBound loader loaded = ClassLoading.chainBound loader' loaded

/-- A class that is found for a name is defined by a source that may define the name. -/
theorem ClassSpace.exists_source_of_find {space : ClassSpace} {name : String}
    {loaded : LoadedClass} (found : space.find name = .ok loaded) :
    ∃ source ∈ space.sourcesFor name, source.2.find? name = some loaded.definition := by
  unfold find at found
  dsimp only at found
  split at found
  · cases found
    rename_i located
    obtain ⟨source, searched, defined⟩ := List.exists_of_findSome?_eq_some located
    obtain ⟨definition, first, rfl⟩ := Option.map_eq_some_iff.mp defined
    exact ⟨source, searched, first⟩
  · cases found

/-- The class that is found for a name is of that name. -/
theorem ClassSpace.name_of_find {space : ClassSpace} {name : String} {loaded : LoadedClass}
    (found : space.find name = .ok loaded) : loaded.name = name := by
  obtain ⟨_, _, first⟩ := exists_source_of_find found
  have named := List.find?_some first
  exact beq_iff_eq.mp named

namespace Loader

/-- A class is loaded when it is found in the class space, which stays as it is. -/
theorem load_eq (name : String) (loader : Loader) : ∃ after : Loader, after.space = loader.space ∧
    load name loader = match loader.space.find name with
      | .ok loaded => .ok loaded after
      | .error failure => .error failure after := by
  unfold load
  split
  · -- A remembered class has been found in the same space.
    rename_i loaded remembered
    have member : (name, loaded) ∈ loader.cache := by
      obtain ⟨before, later, split, -⟩ := List.lookup_eq_some_iff.mp remembered
      simp [split]
    rw [loader.find_of_mem_cache _ member]
    exact ⟨loader, rfl, rfl⟩
  · split
    · rename_i loaded found
      exact ⟨loader.remember name loaded found, rfl, by simp only [found]⟩
    · rename_i failure found
      rw [found]
      exact ⟨loader, rfl, rfl⟩

/-- A class that is loaded is of the name, and the class space stays as it is. -/
theorem load_ok {name : String} {loader after : Loader} {loaded : LoadedClass}
    (ran : load name loader = .ok loaded after) :
    loaded.name = name ∧ after.space = loader.space := by
  obtain ⟨_, kept, same⟩ := loader.load_eq name
  rw [same] at ran
  split at ran
  · cases ran
    exact ⟨ClassSpace.name_of_find ‹_›, kept⟩
  · cases ran

/-- Loaders of a class space load the same classes, whatever they remember, and keep the space. -/
theorem sameClasses_of_space (space : ClassSpace) :
    SameClasses fun loader loader' : Loader => loader.space = space ∧ loader'.space = space where
  load name := by
    rintro loader loader' ⟨rfl, same⟩
    -- Both find the class in the class space, or remember that they did.
    obtain ⟨after, kept, ran⟩ := loader.load_eq name
    obtain ⟨after', kept', ran'⟩ := loader'.load_eq name
    rw [same] at ran' kept'
    simp only [ClassLoading.load, ran, ran']
    cases loader.space.find name with
    | ok loaded => exact .ok rfl ⟨kept, kept'⟩
    | error failure => exact .error rfl ⟨kept, kept'⟩
  chainBound loaded same := by
    simp only [ClassLoading.chainBound, same.1, same.2]

/-- Loaders of one class space load the same classes, and are loaders of one space afterwards. -/
theorem sameClasses :
    SameClasses fun loader loader' : Loader => loader'.space = loader.space where
  load name := by
    intro loader loader' same
    have outcomes := (sameClasses_of_space loader.space).load name loader loader' ⟨rfl, same⟩
    generalize ClassLoading.load name loader = ran, ClassLoading.load name loader' = ran'
      at outcomes ⊢
    cases outcomes with
    | ok found ended => exact .ok found (ended.2.trans ended.1.symm)
    | error failed ended => exact .error failed (ended.2.trans ended.1.symm)
  chainBound loaded same := by
    simp only [ClassLoading.chainBound, same]

end Loader

/-- Failures of a lookup through one loader and another: one that is due to the classes. -/
def SameMismatch (error error' : CompileError) : Prop :=
  error' = error ∧ error.isClassModelMismatch = true

/-- A lookup that finds the same, or fails for the same reason, through related loaders. -/
def Uniform (loaders : ρ → ρ → Prop) (lookup : Lookup ρ α) : Prop :=
  Parallel loaders SameMismatch Eq lookup lookup

variable {loaders : ρ → ρ → Prop}

namespace Uniform

omit [ClassLoading ρ]

/-- A result at hand is found without a loader. -/
theorem pure (found : α) : Uniform loaders (Pure.pure found : Lookup ρ α) :=
  Parallel.pure rfl

/-- A lookup may fail for what the classes lack. -/
theorem throw {error : CompileError} (mismatch : error.isClassModelMismatch = true) :
    Uniform loaders (MonadExcept.throw error : Lookup ρ α) :=
  Parallel.throw ⟨rfl, mismatch⟩

/-- One lookup after another finds the same when both do. -/
theorem bind {lookup : Lookup ρ α} {next : α → Lookup ρ β} (first : Uniform loaders lookup)
    (rest : ∀ found, Uniform loaders (next found)) : Uniform loaders (lookup >>= next) :=
  Parallel.bind first fun found _ same => same ▸ rest found

/-- Lookups for each of some inputs find the same when each of them does. -/
theorem mapM {lookup : α → Lookup ρ β} (each : ∀ input, Uniform loaders (lookup input))
    (inputs : List α) : Uniform loaders (inputs.mapM lookup) := by
  induction inputs with
  | nil => exact .pure []
  | cons input rest ih =>
    rw [List.mapM_cons]
    exact (each input).bind fun found => ih.bind fun others => .pure (found :: others)

end Uniform

namespace Resolve

variable (same : SameClasses loaders)

include same

/-- A class is loaded through either loader. -/
theorem load_uniform (name : String) : Uniform loaders (load name : Lookup ρ LoadedClass) := by
  intro loader loader' related
  simp only [load, EStateM.adaptExcept]
  have outcomes := same.load name loader loader' related
  generalize ClassLoading.load name loader = found, ClassLoading.load name loader' = found'
    at outcomes ⊢
  cases outcomes with
  | ok same related => exact .ok same related
  | error same related => exact .error ⟨congrArg _ same.symm, rfl⟩ related

/-- A type of a plan is found by loading its class, if it has one. -/
theorem runtimeType_uniform (type : ValueType) :
    Uniform loaders (runtimeType type : Lookup ρ RuntimeType) := by
  induction type with
  | void => exact .pure _
  | primitive type => exact .pure _
  | object className => exact (load_uniform same _).bind fun _ => .pure _
  | array component ih => exact ih.bind fun _ => .pure _

/-- The type of a name is found by loading the class of its elements, if there is one. -/
theorem typeNamed_uniform (name : String) :
    Uniform loaders (typeNamed name : Lookup ρ RuntimeType) := by
  refine Uniform.bind ?_ fun _ => .pure _
  unfold elementNamed
  split
  · exact .pure _
  · cases Primitive.ofKeyword? _ with
    | some type => exact .pure _
    | none => exact (load_uniform same _).bind fun _ => .pure _

/-- The names of parameter types are found one by one. -/
theorem signature_uniform (params : List ValueType) :
    Uniform loaders (signature params : Lookup ρ (List String)) :=
  .mapM (fun param => (runtimeType_uniform same param).bind fun _ => .pure _) params

/-- A chain of superclasses is loaded class by class. -/
theorem chainFrom_uniform (seen : List String) (bound : Nat) (loaded : LoadedClass) :
    Uniform loaders (chainFrom seen bound loaded : Lookup ρ (List LoadedClass)) := by
  -- The induction is on the bound, and what has been seen grows along the chain.
  induction bound generalizing seen loaded with
  | zero => exact .pure _
  | succ bound ih =>
    unfold chainFrom
    split
    · exact .pure _
    · split
      · exact .pure _
      · exact (load_uniform same _).bind fun above => (ih _ above).bind fun _ => .pure _

/-- All superclasses of a class are loaded, and as many of them through either loader. -/
theorem superclassChain_uniform (loaded : LoadedClass) :
    Uniform loaders (superclassChain loaded : Lookup ρ (List LoadedClass)) := by
  refine Parallel.get_bind fun loader loader' related => ?_
  -- How far the chain is followed depends on the loader.
  rw [same.chainBound loaded related]
  exact chainFrom_uniform same [] _ loaded loader loader' related

omit [ClassLoading ρ] same in
/-- A constructor is looked for on a loaded class. -/
theorem constructorOn_uniform (loaded : LoadedClass) (params : List String) :
    Uniform loaders (constructorOn loaded params : Lookup ρ (LoadedClass × ConstructorHandle)) := by
  unfold constructorOn
  split
  · exact .pure _
  · exact .throw rfl

/-- A referenced constructor is found by loading its class and parameter types. -/
theorem constructor_uniform (method : MethodReference) :
    Uniform loaders (constructor method : Lookup ρ (LoadedClass × ConstructorHandle)) :=
  (load_uniform same _).bind fun loaded =>
    (signature_uniform same method.params).bind fun params =>
      constructorOn_uniform loaded params

/-- A constructor without parameters is found by loading its class. -/
theorem defaultConstructor_uniform (className : String) :
    Uniform loaders (defaultConstructor className : Lookup ρ (LoadedClass × ConstructorHandle)) :=
  (load_uniform same _).bind fun loaded => constructorOn_uniform loaded []

/-- A method is found by loading its class and the superclasses. -/
theorem methodNamed_uniform (className name : String) (params : List String) :
    Uniform loaders (methodNamed className name params : Lookup ρ MethodHandle) := by
  refine (load_uniform same className).bind fun loaded =>
    (superclassChain_uniform same loaded).bind fun chain => ?_
  split
  · exact .pure _
  · exact .throw rfl

/-- A referenced method is found by loading its parameter types and classes. -/
theorem method_uniform (method : MethodReference) :
    Uniform loaders (Resolve.method method : Lookup ρ MethodHandle) :=
  (signature_uniform same method.params).bind fun params =>
    methodNamed_uniform same _ method.name params

/-- A referenced field is found by loading its class and the superclasses. -/
theorem field_uniform (field : FieldReference) :
    Uniform loaders (Resolve.field field : Lookup ρ FieldHandle) := by
  refine (load_uniform same _).bind fun start =>
    (superclassChain_uniform same start).bind fun chain => ?_
  split
  · exact .pure _
  · exact .throw rfl

omit [ClassLoading ρ] same in
/-- An enum constant is looked for on a loaded class. -/
theorem enumConstant_uniform (loaded : LoadedClass) (name : String) :
    Uniform loaders (enumConstant loaded name : Lookup ρ Constant) := by
  unfold enumConstant
  split
  · exact .pure _
  · exact .throw rfl

/-- A helper routine is found by loading the helper class. -/
theorem helper_uniform (helperClass name : String) :
    Uniform loaders (helper helperClass name : Lookup ρ HelperRoutine) := by
  refine (load_uniform same helperClass).bind fun loaded => ?_
  split
  · exact .pure _
  · exact .throw rfl

end Resolve

end TestPlan
