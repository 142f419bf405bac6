import TestPlan.Demo.Classes
import TestPlan.Proofs.Config.Routines
import TestPlan.Proofs.Lowering.Answered

/-! The name of a type leads back to the type, unless a class is named like another sort of type. -/

namespace TestPlan

namespace ValueType

/-- The name of a type of a plan as programs show it: keyword or binary name, then brackets. -/
def reflectionName : ValueType → String
  | .void => "void"
  | .primitive type => type.keyword
  | .object className => binaryName className
  | .array component => component.reflectionName ++ "[]"

/-- The class of a type is not named like a primitive type, like void or like an array type. -/
def PlainlyNamed : ValueType → Prop
  | .void
  | .primitive _ => True
  | .object className => (∀ type : Primitive, binaryName className ≠ type.keyword) ∧
      binaryName className ≠ "void" ∧ ¬"[]".toList <:+ (binaryName className).toList
  | .array component => component.PlainlyNamed

end ValueType

/-- No primitive type has a keyword that is not one. -/
theorem Primitive.ofKeyword?_eq_none {name : String}
    (other : ∀ type : Primitive, name ≠ type.keyword) : ofKeyword? name = none := by
  cases found : ofKeyword? name with
  | none => rfl
  | some type => exact absurd (keyword_of_ofKeyword? found) (other type)

namespace Resolve

variable {ρ : Type} [ClassLoading ρ]

/-- A name that does not end in brackets has no array levels. -/
theorem arrayLevels_of_not_suffix {name : String} (plain : ¬"[]".toList <:+ name.toList) :
    arrayLevels name.toList.reverse = (0, name.toList.reverse) := by
  unfold arrayLevels
  split
  · rename_i before ends
    refine absurd ⟨before.reverse, ?_⟩ plain
    rw [← List.reverse_reverse name.toList, ends]
    simp
  · rfl

/-- The type of a name that does not end in brackets is that of an element. -/
theorem typeNamed_of_not_suffix {name : String} (plain : ¬"[]".toList <:+ name.toList) :
    (typeNamed name : Lookup ρ RuntimeType) = elementNamed name := by
  unfold typeNamed
  rw [arrayLevels_of_not_suffix plain]
  simp [Nat.repeat]

/-- The type of a name with brackets at its end is that of arrays. -/
theorem typeNamed_append_brackets (name : String) :
    (typeNamed (name ++ "[]") : Lookup ρ RuntimeType) = do return .array (← typeNamed name) := by
  have levels : arrayLevels (name ++ "[]").toList.reverse =
      ((arrayLevels name.toList.reverse).1 + 1, (arrayLevels name.toList.reverse).2) := by
    simp [String.toList_append, arrayLevels]
  simp only [typeNamed, levels, Nat.repeat, bind_assoc, pure_bind]

/-- The type of the name of a type is looked up like the type itself. -/
theorem typeNamed_reflectionName {type : ValueType} (plain : type.PlainlyNamed) :
    (typeNamed type.reflectionName : Lookup ρ RuntimeType) = runtimeType type := by
  induction type with
  | void => exact typeNamed_of_not_suffix (by decide +kernel)
  | primitive type =>
    rw [ValueType.reflectionName, typeNamed_of_not_suffix (by cases type <;> decide +kernel),
      elementNamed, if_neg type.keyword_ne_void, Primitive.ofKeyword?_keyword]
    rfl
  | object className =>
    obtain ⟨noKeyword, notVoid, noBrackets⟩ := plain
    rw [ValueType.reflectionName, typeNamed_of_not_suffix noBrackets, elementNamed,
      if_neg notVoid, Primitive.ofKeyword?_eq_none noKeyword]
    rfl
  | array component ih =>
    rw [ValueType.reflectionName, typeNamed_append_brackets, ih plain]
    rfl

end Resolve

namespace ClassSpace

variable {space : ClassSpace}

/-- The type that stands for a type of a plan has its name. -/
theorem Translates.typeName_eq {type : ValueType} {found : RuntimeType}
    (translates : space.Translates type (.ok found)) :
    found.typeName = type.reflectionName := by
  induction type generalizing found with
  | void | primitive =>
    cases translates
    rfl
  | object className =>
    cases translates with
    | found found => exact name_of_find found
  | array component ih =>
    cases translates with
    | array translates => exact congrArg (· ++ "[]") (ih translates)

/-- Types of one name are the same, unless a class is named like another sort of type. -/
theorem Translates.eq_of_typeName_eq {type type' : ValueType} {found found' : RuntimeType}
    (translates : space.Translates type (.ok found))
    (translates' : space.Translates type' (.ok found')) (plain : type.PlainlyNamed)
    (plain' : type'.PlainlyNamed) (same : found'.typeName = found.typeName) : found' = found := by
  rw [translates.typeName_eq, translates'.typeName_eq] at same
  -- Both are what the one name leads to.
  have looked : (Resolve.runtimeType type' : Resolve RuntimeType) = Resolve.runtimeType type := by
    rw [← Resolve.typeNamed_reflectionName plain, ← same, Resolve.typeNamed_reflectionName plain']
  have answered := Resolve.answer_runtimeType { space } translates
  rw [← looked, Resolve.answer_runtimeType { space } translates'] at answered
  cases answered
  rfl

/-- Types for some parameter types, one for each of them. -/
def TranslatesAll (space : ClassSpace) : List ValueType → List RuntimeType → Prop :=
  List.Forall₂ fun param type => space.Translates param (.ok type)

/-- Parameter types of one signature are the same, one by one. -/
theorem Signs.exists_types {params params' : List ValueType} {names : List String}
    (signs : space.Signs params names) (signs' : space.Signs params' names)
    (plain : ∀ param ∈ params, param.PlainlyNamed)
    (plain' : ∀ param ∈ params', param.PlainlyNamed) :
    ∃ types, space.TranslatesAll params types ∧ space.TranslatesAll params' types := by
  unfold TranslatesAll
  induction signs generalizing params' with
  | nil =>
    cases signs'
    exact ⟨[], .nil, .nil⟩
  | cons first _ ih =>
    obtain ⟨type, translates, rfl⟩ := first
    cases signs' with
    | cons first' rest' =>
      obtain ⟨type', translates', named⟩ := first'
      obtain ⟨types, all, all'⟩ := ih rest' (fun param later => plain param (.tail _ later))
        fun param later => plain' param (.tail _ later)
      cases translates.eq_of_typeName_eq translates' (plain _ (.head _)) (plain' _ (.head _)) named
      exact ⟨type :: types, .cons translates all, .cons translates' all'⟩

end ClassSpace

/-! ### Both ways to look up a type -/

namespace Resolve

/-- Types are found for parameter types when the class space has all of them. -/
theorem answer_mapM_runtimeType_ok_iff {loader : Loader} {params : List ValueType}
    {types : List RuntimeType} : answer (params.mapM runtimeType) loader = .ok types ↔
      loader.space.TranslatesAll params types := by
  rw [answer_mapM runtimeType_plain (runtimeType_uniform Loader.sameClasses), mapM_eq_ok_iff]
  simp only [answer_runtimeType_ok_iff]
  rfl

/--
Whatever has been loaded before, a type and its name lead to the same: to one type, or to one class
that is missing. Types with one name are the same, and so are the types of parameters with one
signature.
-/
theorem runtimeType_typeNamed_agree {loader loader' : Loader} (same : loader'.space = loader.space)
    {type : ValueType} (plain : type.PlainlyNamed) :
    (∀ found, answer (runtimeType type) loader = .ok found →
      answer (typeNamed found.typeName) loader' = .ok found) ∧
    (∀ error, answer (runtimeType type) loader = .error error ↔
      answer (typeNamed type.reflectionName) loader' = .error error) ∧
    (∀ error, answer (runtimeType type) loader = .error error →
      ∃ failure, error = .classNotFound failure) ∧
    (∀ other found found', other.PlainlyNamed → answer (runtimeType type) loader = .ok found →
      answer (runtimeType other) loader' = .ok found' → found'.typeName = found.typeName →
        found' = found) ∧
    ∀ params params' names, (∀ param ∈ params ++ params', param.PlainlyNamed) →
      answer (signature params) loader = .ok names →
      answer (signature params') loader' = .ok names →
        ∃ types, answer (params.mapM runtimeType) loader = .ok types ∧
          answer (params'.mapM runtimeType) loader' = .ok types := by
  have looked : answer (typeNamed type.reflectionName) loader' =
      answer (runtimeType type) loader := by
    rw [typeNamed_reflectionName plain]
    exact answer_congr (runtimeType_uniform Loader.sameClasses type) same
  refine ⟨fun found answered => ?_, fun error => by rw [looked], fun error failed => ?_,
    fun other found found' plain' answered answered' => ?_,
    fun params params' names plain signed signed' => ?_⟩
  · rw [(answer_runtimeType_ok_iff.mp answered).typeName_eq, looked, answered]
  · obtain ⟨failure, rfl, -⟩ := answer_runtimeType_error_iff.mp failed
    exact ⟨failure, rfl⟩
  · rw [answer_runtimeType_ok_iff] at answered answered'
    exact answered.eq_of_typeName_eq (same ▸ answered') plain plain'
  · rw [answer_signature_ok_iff] at signed signed'
    obtain ⟨types, all, all'⟩ := signed.exists_types (same ▸ signed')
      (fun param first => plain param (List.mem_append_left _ first))
      fun param second => plain param (List.mem_append_right _ second)
    rw [← same] at all'
    exact ⟨types, answer_mapM_runtimeType_ok_iff.mpr all, answer_mapM_runtimeType_ok_iff.mpr all'⟩

/-- Arrays of points are found by name, and told by signature, also when boxes have been loaded. -/
theorem runtimeType_typeNamed_agree_points :
    let later := endState (Loader.load "demo.Box") (Demo.loader [])
    let points : RuntimeType := .array (.object ⟨"demo.Point", .instrumented⟩)
    answer (runtimeType (.array Demo.pointType)) (Demo.loader []) = .ok points ∧
      answer (typeNamed points.typeName) later = .ok points ∧
      ∃ types, answer ([ValueType.array Demo.pointType].mapM runtimeType) (Demo.loader []) =
          .ok types ∧
        answer ([ValueType.array Demo.pointType].mapM runtimeType) later = .ok types := by
  intro later points
  have same : later.space = (Demo.loader []).space := by
    obtain ⟨after, kept, ran⟩ := (Demo.loader []).load_eq "demo.Box"
    simp only [later, endState, ran]
    cases (Demo.loader []).space.find "demo.Box" <;> exact kept
  have plain : (ValueType.array Demo.pointType).PlainlyNamed :=
    ⟨fun type => by cases type <;> decide +kernel, by decide +kernel, by decide +kernel⟩
  have found : answer (runtimeType (.array Demo.pointType)) (Demo.loader []) = .ok points := by
    decide +kernel
  have agree := runtimeType_typeNamed_agree same plain
  exact ⟨found, agree.1 points found, agree.2.2.2.2 [.array Demo.pointType] [.array Demo.pointType]
    ["demo.Point[]"] (by simpa using plain) (by decide +kernel) (by decide +kernel)⟩

end Resolve

end TestPlan
