import Mathlib.Data.List.Forall2
import TestPlan.Proofs.Lowering.Found

/-! What a lookup answers is told by the class space alone, whatever has been loaded before. -/

namespace TestPlan

variable {ε α β : Type}

/-- Results for each of some items are there exactly when each item has its own. -/
theorem mapM_eq_ok_iff {f : α → Except ε β} {items : List α} {results : List β} :
    items.mapM f = .ok results ↔
      List.Forall₂ (fun item result => f item = .ok result) items results := by
  induction items generalizing results with
  | nil => cases results <;> simp [pure, Except.pure]
  | cons item rest ih =>
    rw [List.mapM_cons, List.forall₂_cons_left_iff]
    simp only [← ih]
    cases f item <;> cases rest.mapM f <;>
      simp [Bind.bind, Except.bind, pure, Except.pure, eq_comm]

/-- Results for each of some items fail with the failure of one of them. -/
theorem exists_of_mapM_eq_error {f : α → Except ε β} {items : List α} {error : ε}
    (failed : items.mapM f = .error error) : ∃ item ∈ items, f item = .error error := by
  induction items with
  | nil => cases failed
  | cons item rest ih =>
    rw [List.mapM_cons] at failed
    cases first : f item with
    | error other =>
      rw [first] at failed
      cases failed
      exact ⟨item, List.mem_cons_self, first⟩
    | ok result =>
      rw [first] at failed
      cases others : rest.mapM f with
      | ok results =>
        rw [others] at failed
        cases failed
      | error other =>
        rw [others] at failed
        cases failed
        obtain ⟨item, member, same⟩ := ih others
        exact ⟨item, List.mem_cons_of_mem _ member, same⟩

namespace Resolve

/-- What a lookup answers, apart from the classes that are remembered for it. -/
def answer (lookup : Resolve α) (loader : Loader) : Except CompileError α :=
  match lookup loader with
  | .ok found _ => .ok found
  | .error error _ => .error error

/-- Loaders of one class space give the same answers. -/
theorem answer_congr {lookup : Resolve α} {loader loader' : Loader}
    (uniform : Uniform (fun loader loader' : Loader => loader'.space = loader.space) lookup)
    (same : loader'.space = loader.space) : answer lookup loader' = answer lookup loader := by
  have outcomes := uniform loader loader' same
  unfold answer
  generalize lookup loader = ran, lookup loader' = ran' at outcomes ⊢
  cases outcomes with
  | ok found _ => rw [found]
  | error failed _ => rw [failed.1]

/-- A load answers what a search of the class space finds. -/
@[simp]
theorem answer_load (name : String) (loader : Loader) :
    answer (load name) loader = (loader.space.find name).mapError .classNotFound := by
  obtain ⟨after, -, ran⟩ := loader.load_eq name
  simp only [answer, load, EStateM.adaptExcept, ClassLoading.load, ran]
  cases loader.space.find name <;> rfl

/-- Of two lookups the second one answers as it would have done at the beginning. -/
theorem answer_bind {lookup : Resolve α} {next : α → Resolve β} (plain : Plain lookup)
    (uniform : ∀ found,
      Uniform (fun loader loader' : Loader => loader'.space = loader.space) (next found))
    (loader : Loader) :
    answer (lookup >>= next) loader =
      answer lookup loader >>= fun found => answer (next found) loader := by
  cases ran : lookup loader with
  | error error middle =>
    simp only [answer, bind_of_error ran, ran]
    rfl
  | ok found middle =>
    -- The first lookup has loaded classes, which leaves the class space as it was.
    have loads := plain loader
    rw [ran] at loads
    have same := answer_congr (uniform found) (Loader.space_of_loads loads)
    simp only [answer, bind_of_ok ran, ran] at same ⊢
    exact same

/-- Lookups for each of some inputs answer as each of them would have done at the beginning. -/
theorem answer_mapM {lookup : α → Resolve β} (plain : ∀ input, Plain (lookup input))
    (uniform : ∀ input,
      Uniform (fun loader loader' : Loader => loader'.space = loader.space) (lookup input))
    (inputs : List α) (loader : Loader) :
    answer (inputs.mapM lookup) loader = inputs.mapM fun input => answer (lookup input) loader := by
  induction inputs with
  | nil => rfl
  | cons input rest ih =>
    rw [List.mapM_cons, List.mapM_cons, answer_bind (plain input)
      fun found => (Uniform.mapM uniform rest).bind fun others => .pure (found :: others)]
    refine bind_congr fun found => ?_
    rw [answer_bind (Plain.mapM plain rest) fun others => .pure (found :: others), ih]
    rfl

end Resolve

/-! ### Types -/

/-- What a class space has for a type of a plan: a type, or a failure to find its class. -/
inductive ClassSpace.Translates (space : ClassSpace) :
    ValueType → Except ClassNotFound RuntimeType → Prop
  | void : Translates space .void (.ok .void)
  | primitive (type : Primitive) : Translates space (.primitive type) (.ok (.primitive type))
  | found {className : String} {loaded : LoadedClass} :
      space.find (binaryName className) = .ok loaded →
        Translates space (.object className) (.ok loaded.type)
  | missing {className : String} {failure : ClassNotFound} :
      space.find (binaryName className) = .error failure →
        Translates space (.object className) (.error failure)
  | array {component : ValueType} {type : RuntimeType} :
      Translates space component (.ok type) →
        Translates space (.array component) (.ok (.array type))
  | arrayMissing {component : ValueType} {failure : ClassNotFound} :
      Translates space component (.error failure) →
        Translates space (.array component) (.error failure)

/-- The names of the types that a class space has for parameter types. -/
def ClassSpace.Signs (space : ClassSpace) : List ValueType → List String → Prop :=
  List.Forall₂ fun param name => ∃ type, space.Translates param (.ok type) ∧ type.typeName = name

namespace Resolve

/-- A type of a plan is looked up as the class space has it. -/
theorem answer_runtimeType {type : ValueType} {result : Except ClassNotFound RuntimeType}
    (loader : Loader) (translates : loader.space.Translates type result) :
    answer (runtimeType type) loader = result.mapError .classNotFound := by
  have object (className : String) : answer (runtimeType (.object className)) loader =
      (loader.space.find (binaryName className)).mapError .classNotFound >>=
        fun loaded => .ok loaded.type := by
    rw [← answer_load]
    exact answer_bind (load_plain _) (fun _ => .pure _) loader
  have array (component : ValueType) : answer (runtimeType (.array component)) loader =
      answer (runtimeType component) loader >>= fun type => .ok (.array type) :=
    answer_bind (runtimeType_plain component) (fun _ => .pure _) loader
  induction translates with
  | void => rfl
  | primitive type => rfl
  | found found =>
    rw [object, found]
    rfl
  | missing missing =>
    rw [object, missing]
    rfl
  | array _ ih =>
    rw [array, ih]
    rfl
  | arrayMissing _ ih =>
    rw [array, ih]
    rfl

end Resolve

namespace ClassSpace

/-- A class space has a type for each type of a plan, or misses a class for it. -/
theorem exists_translates (space : ClassSpace) (type : ValueType) :
    ∃ result, space.Translates type result := by
  induction type with
  | void => exact ⟨_, .void⟩
  | primitive type => exact ⟨_, .primitive type⟩
  | object className =>
    cases found : space.find (binaryName className) with
    | ok loaded => exact ⟨_, .found found⟩
    | error failure => exact ⟨_, .missing found⟩
  | array component ih =>
    obtain ⟨result, translates⟩ := ih
    cases result with
    | ok type => exact ⟨_, .array translates⟩
    | error failure => exact ⟨_, .arrayMissing translates⟩

/-- A class space has no more than one type for a type of a plan. -/
theorem Translates.unique {space : ClassSpace} {type : ValueType}
    {result result' : Except ClassNotFound RuntimeType} (translates : space.Translates type result)
    (translates' : space.Translates type result') : result' = result := by
  -- Both are what a loader of the class space answers.
  have same := (Resolve.answer_runtimeType { space } translates).symm.trans
    (Resolve.answer_runtimeType { space } translates')
  cases result <;> cases result' <;> simp_all [Except.mapError]

end ClassSpace

namespace Resolve

variable {loader : Loader}

/-- A type is found for a type of a plan exactly when the class space has it. -/
theorem answer_runtimeType_ok_iff {type : ValueType} {found : RuntimeType} :
    answer (runtimeType type) loader = .ok found ↔ loader.space.Translates type (.ok found) := by
  refine ⟨fun answered => ?_, answer_runtimeType loader⟩
  obtain ⟨result, translates⟩ := loader.space.exists_translates type
  rw [answer_runtimeType loader translates] at answered
  cases result <;> cases answered
  exact translates

/-- A lookup of a type fails exactly with the failure to find its class. -/
theorem answer_runtimeType_error_iff {type : ValueType} {error : CompileError} :
    answer (runtimeType type) loader = .error error ↔ ∃ failure,
      error = .classNotFound failure ∧ loader.space.Translates type (.error failure) := by
  constructor
  · intro answered
    obtain ⟨result, translates⟩ := loader.space.exists_translates type
    rw [answer_runtimeType loader translates] at answered
    cases result <;> cases answered
    exact ⟨_, rfl, translates⟩
  · rintro ⟨failure, rfl, translates⟩
    exact answer_runtimeType loader translates

/-- The names of parameter types are found one by one. -/
theorem answer_signature (params : List ValueType) (loader : Loader) :
    answer (signature params) loader = params.mapM fun param =>
      answer (runtimeType param) loader >>= fun type => .ok type.typeName := by
  unfold signature
  rw [answer_mapM (fun param => (runtimeType_plain param).bind fun _ => Plain.pure _)
    fun param => (runtimeType_uniform Loader.sameClasses param).bind fun _ => .pure _]
  congr
  funext param
  exact answer_bind (runtimeType_plain param) (fun _ => .pure _) loader

/-- The names of parameter types are found when the class space has all the types. -/
theorem answer_signature_ok_iff {params : List ValueType} {names : List String} :
    answer (signature params) loader = .ok names ↔ loader.space.Signs params names := by
  rw [answer_signature, mapM_eq_ok_iff, ClassSpace.Signs]
  simp only [← answer_runtimeType_ok_iff]
  refine Iff.of_eq (congrArg (List.Forall₂ · params names) ?_)
  funext param name
  cases answer (runtimeType param) loader <;> simp [Bind.bind, Except.bind]

/-- The names of parameter types are not found when a class of one of them is missing. -/
theorem classNotFound_of_answer_signature {params : List ValueType} {error : CompileError}
    (failed : answer (signature params) loader = .error error) :
    ∃ failure, error = .classNotFound failure ∧
      ∃ param ∈ params, loader.space.Translates param (.error failure) := by
  rw [answer_signature] at failed
  obtain ⟨param, member, failed⟩ := exists_of_mapM_eq_error failed
  cases found : answer (runtimeType param) loader with
  | ok type =>
    rw [found] at failed
    cases failed
  | error other =>
    rw [found] at failed
    cases failed
    obtain ⟨failure, rfl, missing⟩ := answer_runtimeType_error_iff.mp found
    exact ⟨failure, rfl, param, member, missing⟩

end Resolve

namespace ClassSpace

variable {space : ClassSpace} {params : List ValueType} {names : List String}

/-- Parameter types that have names are all there. -/
theorem Signs.not_missing (signs : space.Signs params names) {param : ValueType}
    (member : param ∈ params) (failure : ClassNotFound) :
    ¬space.Translates param (.error failure) := by
  intro missing
  induction signs with
  | nil => cases member
  | cons first _ ih =>
    rcases List.mem_cons.mp member with rfl | later
    · obtain ⟨type, translates, -⟩ := first
      cases missing.unique translates
    · exact ih later

end ClassSpace

end TestPlan
