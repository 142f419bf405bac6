import TestPlan.Proofs.Lowering.Renamed

/-! A test is compiled from what its loader loads, whatever the loader has loaded before. -/

namespace TestPlan

variable {ρ : Type} [ClassLoading ρ] {loaders : ρ → ρ → Prop}

/-- A failure with the same names, variables and positions is the same. -/
theorem CompileError.map_id (error : CompileError) : error.map id id id = error := by
  cases error with
  | testCase error => rw [map, error.map_id]
  | planGraph error => cases error <;> rfl
  | _ => rfl

/-- Compilations that differ in nothing but their loaders, which are related. -/
def Correspondence.throughLoaders (loaders : ρ → ρ → Prop) : Correspondence ρ where
  names := id
  vars := id
  positions := id
  loaders := loaders
  states session session' :=
    ∃ loader', loaders session.loader loader' ∧ session' = { session with loader := loader' }
  plans := Eq
  literals := Eq
  constants := Eq
  common _ := True
  stands _ operand operand' := operand' = operand

/-- Compilations through loaders of the same classes correspond. -/
theorem Correspondence.throughLoaders_lawful (same : SameClasses loaders) :
    (throughLoaders loaders).Lawful where
  injective := Function.injective_id
  same := same
  twins := by
    rintro plan _ rfl
    exact ⟨rfl, .refl (fun _ _ => rfl) fun _ _ => rfl⟩
  asInt? same := same ▸ rfl
  constant? same := same ▸ Literal.rel_constant? _
  primitive? same := same ▸ rfl
  stands _ operand _ := by cases operand <;> rfl
  constants _ _ _ same _ := congrArg Operand.constant same.symm
  loader := by
    rintro session _ ⟨loader', related, rfl⟩
    exact related
  reload := by
    rintro session _ loader loader' ⟨_, _, rfl⟩ related
    exact ⟨loader', related, rfl⟩
  active := by
    rintro session _ ⟨loader', related, rfl⟩
    exact (List.map_id _).symm
  activate := by
    rintro session _ active ⟨loader', related, rfl⟩
    exact ⟨loader', related, by rw [throughLoaders, List.map_id]⟩
  terminated := by
    rintro session _ ⟨loader', related, rfl⟩
    rfl
  terminate := by
    rintro session _ ⟨loader', related, rfl⟩
    exact ⟨loader', related, rfl⟩
  get? := by
    rintro session _ name ⟨loader', related, rfl⟩ _
    exact Option.map_id_apply.symm
  bind := by
    rintro session _ name var ⟨loader', related, rfl⟩ _
    exact ⟨loader', related, rfl⟩
  isCompiled := by
    rintro session _ name ⟨loader', related, rfl⟩ _
    rfl
  complete := by
    rintro session _ name ⟨loader', related, rfl⟩ _
    exact ⟨loader', related, rfl⟩
  -- All plans are treated alike.
  inline _ _ unknown := absurd trivial unknown
  declare := by
    rintro session _ type ⟨loader', related, rfl⟩
    exact ⟨rfl, loader', related, rfl⟩
  append := by
    rintro session _ slots statement statement' ⟨loader', related, rfl⟩ corresponds
    -- The same statement is appended to the same test.
    rw [corresponds.of_eq.eq]
    dsimp only
    cases session.test.append statement with
    | ok test => exact .ok ⟨loader', related, rfl⟩
    | error error => exact .error error.map_id.symm
  typeName := by
    rintro session _ slot operand _ ⟨loader', related, rfl⟩ rfl
    rfl

/-- Through loaders of the same classes the same test is compiled, or the same failure occurs. -/
theorem Lower.compileTest_throughLoaders (same : SameClasses loaders) (sharing : Sharing)
    (config : CompilerConfig) (method : MethodReference) (parameters : Parameters)
    (loader loader' : ρ) (related : loaders loader loader') :
    Outcomes (fun after after' => loaders after.loader after'.loader) Eq Eq
      (compileTest sharing config method parameters { loader })
      (compileTest sharing config method parameters { loader := loader' }) := by
  -- An error that is passed on is the same error.
  have checked : checkNames sharing config parameters
      = (checkNames sharing config parameters).mapError (CompileError.map id id id) := by
    cases checkNames sharing config parameters with
    | ok => rfl
    | error error => exact congrArg Except.error error.map_id.symm
  have outcomes := compileTest_corresponds (Correspondence.throughLoaders_lawful same) method
    (twins_self fun _ _ => rfl) (fun _ _ => trivial) checked
    { loader } { loader := loader' } ⟨loader', related, rfl⟩
  -- The sessions have the same test and bindings, and only their loaders differ.
  generalize compileTest sharing config method parameters { loader } = ran,
    compileTest sharing config method parameters { loader := loader' } = ran' at outcomes ⊢
  cases outcomes with
  | ok built ended =>
    obtain ⟨session, _, ⟨_, _, rfl⟩, rfl, rfl⟩ := built
    obtain ⟨_, kept, rfl⟩ := ended
    exact .ok rfl kept
  | error blamed ended =>
    obtain ⟨_, kept, rfl⟩ := ended
    exact .error (blamed.trans (CompileError.map_id _)).symm kept

end TestPlan
