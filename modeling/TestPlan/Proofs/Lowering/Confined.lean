import TestPlan.Lowering.Compile
import TestPlan.Proofs.Lowering.Lookups
import TestPlan.Proofs.Runs

/-!
Which classes and helper routines a compilation fails for: only classes that the class space lacks,
and only routines that are selected for a step and that the helper class does not declare.
-/

namespace TestPlan

variable {ε σ α β γ : Type}

/-- A step that keeps what holds of its states, and that fails in no way but those admitted. -/
def Confined (keeps : σ → Prop) (admits : ε → Prop) (step : EStateM ε σ α) : Prop :=
  ∀ state, keeps state →
    match step state with
    | .ok _ after => keeps after
    | .error error after => keeps after ∧ admits error

namespace Confined

variable {keeps : σ → Prop} {admits : ε → Prop} {step : EStateM ε σ α}

/-- A result at hand changes nothing. -/
theorem pure (result : α) : Confined keeps admits (Pure.pure result : EStateM ε σ α) :=
  fun _ kept => kept

/-- A failure that is admitted may be reported. -/
theorem throw {error : ε} (admitted : admits error) :
    Confined keeps admits (MonadExcept.throw error : EStateM ε σ α) :=
  fun _ kept => ⟨kept, admitted⟩

/-- One step after another is confined when both are. -/
theorem bind {next : α → EStateM ε σ β} (first : Confined keeps admits step)
    (rest : ∀ result, Confined keeps admits (next result)) :
    Confined keeps admits (step >>= next) := by
  intro state kept
  have first := first state kept
  simp only [Bind.bind, EStateM.bind]
  revert first
  cases step state with
  | error error after => exact id
  | ok result after => exact rest result after

/-- A step whose result is wrapped does nothing else. -/
theorem map (wrap : α → β) (confined : Confined keeps admits step) :
    Confined keeps admits (wrap <$> step) := by
  rw [← bind_pure_comp]
  exact confined.bind fun result => .pure _

/-- What is done after a look at the state may rely on what holds of it. -/
theorem get_bind {next : σ → EStateM ε σ α}
    (rest : ∀ state, keeps state → Confined keeps admits (next state)) :
    Confined keeps admits (get >>= next) :=
  fun state kept => rest state kept state kept

/-- A change of the state keeps what holds of it. -/
theorem change {change : σ → σ} (keep : ∀ state, keeps state → keeps (change state)) :
    Confined keeps admits (modify change : EStateM ε σ Unit) :=
  fun state kept => keep state kept

/-- A state of which the same holds may be put in place. -/
theorem set {state : σ} (kept : keeps state) :
    Confined keeps admits (MonadStateOf.set state : EStateM ε σ Unit) :=
  fun _ _ => kept

/-- After a failure that is admitted nothing else is done. -/
theorem throw_bind {error : ε} {next : α → EStateM ε σ β} (admitted : admits error) :
    Confined keeps admits (MonadExcept.throw error >>= next) :=
  fun _ kept => ⟨kept, admitted⟩

/-- Steps for each of some inputs are confined when each of them is. -/
theorem mapM {step : γ → EStateM ε σ α} (each : ∀ input, Confined keeps admits (step input))
    (inputs : List γ) : Confined keeps admits (inputs.mapM step) := by
  induction inputs with
  | nil => exact .pure []
  | cons input rest ih =>
    rw [List.mapM_cons]
    exact (each input).bind fun result => ih.bind fun results => .pure (result :: results)

/-- Steps that are carried out for each of some inputs are confined when each of them is. -/
theorem forM {step : γ → EStateM ε σ Unit} (each : ∀ input, Confined keeps admits (step input))
    (inputs : List γ) : Confined keeps admits (inputs.forM step) := by
  rw [List.forM_eq_forM]
  induction inputs with
  | nil => exact .pure ()
  | cons input rest ih =>
    rw [List.forM_cons]
    exact (each input).bind fun _ => ih

end Confined

/-! ### Warranted failures -/

/-- A routine that may be selected for a step: that for objects, or one of a family. -/
inductive HelperLibrary.Selects (library : HelperLibrary) : String → Prop
  | newInstance : Selects library library.newInstance
  | family (purpose : HelperPurpose) (type : String) :
      Selects library ((library.family purpose).select type)

/-- A failure for want of a class or of a helper routine has its reason in the class space. -/
def CompileError.Warranted (space : ClassSpace) (helpers : HelperLibrary) : CompileError → Prop
  | .classNotFound failure => space.find failure.name = .error failure
  | .memberNotFound _ routine .helper => helpers.Selects routine ∧
      ∃ loaded, space.find helpers.binaryName = .ok loaded ∧
        ∀ method ∈ loaded.definition.methods, method.name ≠ routine
  | _ => True

/-- The name of a class that is not found is the one that has been searched for. -/
theorem ClassSpace.name_of_find_error {space : ClassSpace} {name : String}
    {failure : ClassNotFound} (missing : space.find name = .error failure) :
    failure.name = name := by
  unfold find at missing
  dsimp only at missing
  split at missing <;> cases missing
  rfl

variable {space : ClassSpace} {helpers : HelperLibrary}

/-- A lookup all failures of which are warranted by the class space. -/
abbrev Looks (space : ClassSpace) (helpers : HelperLibrary) (lookup : Resolve α) : Prop :=
  Confined (fun loader => loader.space = space) (CompileError.Warranted space helpers) lookup

/-- A lowering all failures of which are warranted by the class space. -/
abbrev Works (space : ClassSpace) (helpers : HelperLibrary) (step : Lower α) : Prop :=
  Confined (fun session => session.loader.space = space) (CompileError.Warranted space helpers) step

/-! ### Lookups -/

namespace Resolve

/-- A class that is not loaded is not there, and one that is loaded is the one that is there. -/
theorem load_bind_looks {name : String} {next : LoadedClass → Resolve α}
    (rest : ∀ loaded, space.find name = .ok loaded → Looks space helpers (next loaded)) :
    Looks space helpers (load name >>= next) := by
  rintro loader rfl
  obtain ⟨after, kept, ran⟩ := loader.load_eq name
  simp only [Bind.bind, EStateM.bind, load, EStateM.adaptExcept, ClassLoading.load, ran]
  cases found : loader.space.find name with
  | ok loaded => exact rest loaded found after kept
  | error failure =>
    refine ⟨kept, ?_⟩
    rwa [CompileError.Warranted, ClassSpace.name_of_find_error found]

/-- A class that is not loaded is not there. -/
theorem load_looks (name : String) : Looks space helpers (load name) := by
  rw [← bind_pure (load name)]
  exact load_bind_looks fun loaded _ => .pure loaded

/-- A type is looked up by its class, if it has one. -/
theorem runtimeType_looks (type : ValueType) : Looks space helpers (runtimeType type) := by
  induction type with
  | void => exact .pure _
  | primitive type => exact .pure _
  | object className => exact (load_looks _).bind fun _ => .pure _
  | array component ih => exact ih.bind fun _ => .pure _

/-- A type is looked up by the class of its elements, if they have one. -/
theorem typeNamed_looks (name : String) : Looks space helpers (typeNamed name) := by
  refine Confined.bind ?_ fun _ => .pure _
  unfold elementNamed
  split
  · exact .pure _
  · cases Primitive.ofKeyword? _ with
    | some type => exact .pure _
    | none => exact (load_looks _).bind fun _ => .pure _

/-- The types of parameters are looked up one by one. -/
theorem signature_looks (params : List ValueType) : Looks space helpers (signature params) :=
  .mapM (fun param => (runtimeType_looks param).bind fun _ => .pure _) params

/-- Superclasses are looked up one by one. -/
theorem chainFrom_looks (seen : List String) (bound : Nat) (loaded : LoadedClass) :
    Looks space helpers (chainFrom seen bound loaded) := by
  -- The induction is on the bound, and what has been seen grows along the chain.
  induction bound generalizing seen loaded with
  | zero => exact .pure _
  | succ bound ih =>
    unfold chainFrom
    split
    · exact .pure _
    · split
      · exact .pure _
      · exact (load_looks _).bind fun above => (ih _ above).bind fun _ => .pure _

/-- All superclasses are looked up. -/
theorem superclassChain_looks (loaded : LoadedClass) :
    Looks space helpers (superclassChain loaded) :=
  .get_bind fun _ _ => chainFrom_looks [] _ loaded

/-- A constructor that is not declared is no helper routine. -/
theorem constructorOn_looks (loaded : LoadedClass) (params : List String) :
    Looks space helpers (constructorOn loaded params) := by
  unfold constructorOn
  split
  · exact .pure _
  · exact .throw trivial

/-- A constructor is looked up with its class and parameter types. -/
theorem constructor_looks (method : MethodReference) : Looks space helpers (constructor method) :=
  (load_looks _).bind fun loaded => (signature_looks _).bind (constructorOn_looks loaded)

/-- A constructor without parameters is looked up with its class. -/
theorem defaultConstructor_looks (className : String) :
    Looks space helpers (defaultConstructor className) :=
  (load_looks _).bind fun loaded => constructorOn_looks loaded []

/-- A method that is not declared is no helper routine. -/
theorem methodNamed_looks (className name : String) (params : List String) :
    Looks space helpers (methodNamed className name params) := by
  refine (load_looks _).bind fun loaded => (superclassChain_looks loaded).bind fun chain => ?_
  split
  · exact .pure _
  · exact .throw trivial

/-- A method is looked up with its parameter types and classes. -/
theorem method_looks (method : MethodReference) : Looks space helpers (Resolve.method method) :=
  (signature_looks _).bind (methodNamed_looks _ _)

/-- A field that is not declared is no helper routine. -/
theorem field_looks (field : FieldReference) : Looks space helpers (Resolve.field field) := by
  refine (load_looks _).bind fun start => (superclassChain_looks start).bind fun chain => ?_
  split
  · exact .pure _
  · exact .throw trivial

/-- An enum constant that is not declared is no helper routine. -/
theorem enumConstant_looks (loaded : LoadedClass) (name : String) :
    Looks space helpers (enumConstant loaded name) := by
  unfold enumConstant
  split
  · exact .pure _
  · exact .throw trivial

/-- A helper routine is looked up in the helper class, which may not declare it. -/
theorem helper_looks {name : String} (selects : helpers.Selects name) :
    Looks space helpers (helper helpers.binaryName name) := by
  refine load_bind_looks fun loaded found => ?_
  split
  · exact .pure _
  · rename_i undeclared
    refine .throw ⟨selects, loaded, found, fun method member same => undeclared ?_⟩
    exact List.any_eq_true.mpr ⟨method, member, beq_iff_eq.mpr same⟩

end Resolve

/-! ### Steps that every lowering is made of -/

namespace Lower

/-- What is looked up through the loader of the compilation. -/
theorem resolve_works {lookup : Resolve α} (looks : Looks space helpers lookup) :
    Works space helpers (resolve lookup) := by
  intro session kept
  have looked := looks session.loader kept
  unfold resolve
  revert looked
  cases lookup session.loader <;> exact id

/-- A result at hand, or the failure that stands in its place. -/
theorem ofExcept_works {result : Except CompileError α}
    (warranted : ∀ error, result = .error error → error.Warranted space helpers) :
    Works space helpers (ofExcept result) := by
  cases result with
  | ok result => exact .pure result
  | error error => exact .throw (warranted error rfl)

/-- A statement is appended to the test, or it is refused. -/
theorem emit_works (statement : Statement) : Works space helpers (emit statement) := by
  refine .get_bind fun session kept => ?_
  dsimp only
  split
  · exact .throw_bind trivial
  · split
    · exact .set kept
    · exact .throw trivial

/-- A statement is appended with a new variable. -/
theorem temporary_works (type : RuntimeType) (build : Var → Statement) :
    Works space helpers (temporary type build) :=
  .get_bind fun _ _ => Confined.bind (.change fun _ kept => kept) fun _ =>
    (emit_works _).bind fun _ => .pure _

/-- A plan is required to have no value. -/
theorem ensureUnbound_works (owner : String) : Works space helpers (ensureUnbound owner) := by
  refine .get_bind fun session _ => ?_
  split
  · exact .throw trivial
  · exact .pure ()

/-- A plan gets its value, or has one already. -/
theorem define_works (owner : String) (type : RuntimeType) (build : Var → Statement) :
    Works space helpers (define owner type build) := by
  refine (ensureUnbound_works owner).bind fun _ => (temporary_works type build).bind fun var =>
    .get_bind fun session _ => Confined.bind (ofExcept_works fun error failed => ?_) fun _ =>
      Confined.bind (.change fun _ kept => kept) fun _ => .pure var
  unfold Bindings.bind at failed
  split at failed <;> cases failed
  trivial

/-- A statement is appended, with its result as the value of a plan when one is given. -/
theorem append_works (owner : Option (String × RuntimeType)) (build : Option Var → Statement) :
    Works space helpers (append owner build) := by
  cases owner with
  | none => exact emit_works _
  | some target => exact (define_works _ _ _).bind fun _ => .pure ()

/-- The variable of a plan is read. -/
theorem ownerVar_works (owner : String) : Works space helpers (ownerVar owner) := by
  refine .get_bind fun session _ => ?_
  split
  · exact .pure _
  · exact .throw trivial

/-- A plan is required not to be under way, and not to be nested too deep. -/
theorem checkNesting_works (config : CompilerConfig) (name : String) :
    Works space helpers (checkNesting config name) := by
  refine .get_bind fun session _ => ?_
  dsimp only
  split
  · exact .throw_bind trivial
  · split
    · split
      · exact .throw trivial
      · exact .pure ()
    · exact .pure ()

/-- A step inside a plan works like outside of it. -/
theorem within_works (name : String) {step : Lower Unit} (works : Works space helpers step) :
    Works space helpers (within name step) := by
  intro session kept
  have inner := works (session.enter name) kept
  unfold within
  revert inner
  -- The plan is left in both cases, and the loader stays as it is.
  cases step (session.enter name) <;> exact id

/-- A plan is compiled once, by its body. -/
theorem once_works (config : CompilerConfig) (name : String) {body : Lower Unit}
    (works : Works space helpers body) : Works space helpers (once config name body) := by
  refine .get_bind fun session _ => ?_
  split
  · exact .pure ()
  · exact (checkNesting_works config name).bind fun _ => (within_works name works).bind fun _ =>
      .change fun _ kept => kept

/-- A variable gets null. -/
theorem nullVar_works : Works space helpers nullVar :=
  (resolve_works (Resolve.typeNamed_looks objectClass)).bind fun type => temporary_works type .null

/-- A literal becomes the value of its plan. -/
theorem literalLeaf_works (owner : String) (value : Literal) :
    Works space helpers (literalLeaf owner value) := by
  unfold literalLeaf
  split
  · exact define_works _ _ _
  · exact (resolve_works (Resolve.typeNamed_looks objectClass)).bind fun type =>
      define_works owner type .null

/-- A text becomes the value of its plan. -/
theorem textLeaf_works (owner text : String) : Works space helpers (textLeaf owner text) :=
  (resolve_works (Resolve.typeNamed_looks stringClass)).bind fun type =>
    define_works owner type (.constant (.text text))

/-- A plan that is no index is not for want of a class. -/
theorem literalIndex_warranted {plan : Plan} {error : CompileError}
    (failed : literalIndex plan = .error error) : error.Warranted space helpers := by
  unfold literalIndex at failed
  split at failed
  · split at failed <;> cases failed
    trivial
  · cases failed
    trivial

/-- An array type is looked up. -/
theorem arrayType_works (owner : String) (type : ValueType) :
    Works space helpers (arrayType owner type) := by
  refine (resolve_works (Resolve.runtimeType_looks type)).bind fun found => ?_
  dsimp only
  split
  · exact .throw_bind trivial
  · exact .pure _

end Lower

end TestPlan
