import TestPlan.Proofs.Lowering.Lookups
import TestPlan.Proofs.Lowering.Prescription

/-! What is found by a lookup that is carried out some time while a test is compiled. -/

namespace TestPlan

variable {ρ α β : Type} [ClassLoading ρ]

namespace Resolve

/-- The type with the name of a plain class is that of the class. -/
theorem typeNamed_eq_runtimeType {name : String}
    (levels : arrayLevels name.toList.reverse = (0, name.toList.reverse)) (notVoid : name ≠ "void")
    (noKeyword : Primitive.ofKeyword? name = none) (named : binaryName (internalName name) = name) :
    (typeNamed name : Lookup ρ RuntimeType) = runtimeType (.ofClassName name) := by
  simp only [typeNamed, levels, List.reverse_reverse, String.ofList_toList, elementNamed, noKeyword,
    ValueType.ofClassName, runtimeType, loadOwner, named]
  rw [if_neg notVoid]
  simp [Nat.repeat]

/-- The type of class objects is that of their class. -/
theorem typeNamed_classClass :
    (typeNamed classClass : Lookup ρ RuntimeType) = runtimeType (.ofClassName classClass) :=
  typeNamed_eq_runtimeType (by decide +kernel) (by decide) (by decide +kernel) (by decide +kernel)

/-- The type of texts is that of their class. -/
theorem typeNamed_stringClass_eq :
    (typeNamed stringClass : Lookup ρ RuntimeType) = runtimeType (.ofClassName stringClass) :=
  typeNamed_eq_runtimeType (by decide +kernel) (by decide) (by decide +kernel) (by decide +kernel)

/-- The type of all objects is that of their class. -/
theorem typeNamed_objectClass :
    (typeNamed objectClass : Lookup ρ RuntimeType) = runtimeType (.ofClassName objectClass) :=
  typeNamed_eq_runtimeType (by decide +kernel) (by decide) (by decide +kernel) (by decide +kernel)

end Resolve

namespace Setting.Finds

variable {setting : Setting ρ}

/-- What is found in two steps is found by the second one, from what the first one has found. -/
theorem of_bind {lookup : Lookup ρ α} {next : α → Lookup ρ β} {result : β} (plain : Plain lookup)
    (finds : setting.Finds (lookup >>= next) result) :
    ∃ found, setting.Finds lookup found ∧ setting.Finds (next found) result := by
  obtain ⟨before, after, loads, ran⟩ := finds
  -- The second lookup starts from a loader that has loaded no more than classes either.
  obtain ⟨found, middle, first, second⟩ := bind_eq_ok_iff.mp ran
  have loaded := plain before
  rw [first] at loaded
  exact ⟨found, ⟨before, middle, loads, first⟩, middle, after, loads.trans loaded, second⟩

/-- A result at hand is found. -/
theorem eq_of_pure {found result : α} (finds : setting.Finds (pure found) result) :
    result = found := by
  obtain ⟨_, _, _, ⟨⟩⟩ := finds
  rfl

/-- The type of a class is found with the class. -/
theorem runtimeType {className : String} {loaded : LoadedClass}
    (finds : setting.Finds (Resolve.loadOwner className) loaded) :
    setting.Finds (Resolve.runtimeType (.object className)) loaded.type := by
  obtain ⟨before, after, loads, ran⟩ := finds
  exact ⟨before, after, loads, bind_of_ok ran⟩

/-- A constructor that is found on a class is one of that class. -/
theorem eq_of_constructorOn {loaded found : LoadedClass} {params : List String}
    {handle : ConstructorHandle}
    (finds : setting.Finds (Resolve.constructorOn loaded params) (found, handle)) :
    found = loaded := by
  obtain ⟨_, _, _, ran⟩ := finds
  cases declared : loaded.definition.constructor? params with
  | none =>
    simp only [Resolve.constructorOn, declared] at ran
    cases ran
  | some definition =>
    simp only [Resolve.constructorOn, declared] at ran
    cases ran
    rfl

/-- A constructor makes objects of the class that its reference names. -/
theorem constructor {method : MethodReference} {loaded : LoadedClass} {handle : ConstructorHandle}
    (finds : setting.Finds (Resolve.constructor method) (loaded, handle)) :
    setting.Finds (Resolve.runtimeType (.object method.owner)) loaded.type := by
  obtain ⟨found, first, rest⟩ := finds.of_bind (Resolve.load_plain _)
  obtain ⟨params, _, last⟩ := rest.of_bind (Resolve.signature_plain _)
  cases eq_of_constructorOn last
  exact runtimeType first

/-- The constructor without parameters makes objects of its class. -/
theorem defaultConstructor {className : String} {loaded : LoadedClass}
    {handle : ConstructorHandle}
    (finds : setting.Finds (Resolve.defaultConstructor className) (loaded, handle)) :
    setting.Finds (Resolve.runtimeType (.object className)) loaded.type := by
  obtain ⟨found, first, last⟩ := finds.of_bind (Resolve.load_plain _)
  cases eq_of_constructorOn last
  exact runtimeType first

/-- A helper routine that is found has the name that is looked for. -/
theorem helper_name {helperClass name : String} {routine : HelperRoutine}
    (finds : setting.Finds (Resolve.helper helperClass name) routine) : routine.name = name := by
  obtain ⟨loaded, _, _, _, _, ran⟩ := finds.of_bind (Resolve.load_plain _)
  split at ran <;> cases ran
  rfl

/-- The type of an array is found with that of its components. -/
theorem component {component : ValueType} {found : RuntimeType}
    (finds : setting.Finds (Resolve.runtimeType (.array component)) found) :
    ∃ type, setting.Finds (Resolve.runtimeType component) type ∧ found = .array type := by
  obtain ⟨type, first, last⟩ := finds.of_bind (Resolve.runtimeType_plain _)
  exact ⟨type, first, eq_of_pure last⟩

/-- An array type is found only for the type of an array. -/
theorem exists_array {type : ValueType} {found : RuntimeType} (isArray : found.isArray = true)
    (finds : setting.Finds (Resolve.runtimeType type) found) :
    ∃ component, type = .array component := by
  -- All other types stand for types of their own kind.
  cases type with
  | array component => exact ⟨component, rfl⟩
  | void | primitive =>
    cases eq_of_pure finds
    cases isArray
  | object className =>
    obtain ⟨loaded, _, last⟩ := finds.of_bind (Resolve.load_plain _)
    cases eq_of_pure last
    cases isArray

end Setting.Finds

/-! ### The layered loader -/

/-- Loading classes leaves the class space. -/
theorem Loader.space_of_loads {loader after : Loader} (loads : Loads loader after) :
    after.space = loader.space := by
  -- The induction is on the loads, each of which may remember a class but adds no source.
  induction loads with
  | refl => rfl
  | @found middle last name loaded _ ran ih => exact (load_ok ran).2.trans ih
  | @missing middle last name failure _ ran ih =>
    obtain ⟨other, kept, same⟩ := middle.load_eq name
    rw [show load name middle = _ from ran] at same
    split at same <;> cases same
    exact kept.trans ih

namespace Setting.Finds

variable {setting : Setting Loader}

/-- What is found some time while a test is compiled is found at the beginning as well. -/
theorem initially {lookup : Resolve α} {found : α}
    (uniform : Uniform (fun loader loader' : Loader => loader'.space = loader.space) lookup)
    (finds : setting.Finds lookup found) :
    ∃ after, lookup setting.loader = .ok found after := by
  obtain ⟨before, _, loads, ran⟩ := finds
  -- What has been loaded since makes no difference, for the class space is the same.
  have outcomes := uniform before setting.loader (Loader.space_of_loads loads).symm
  rw [ran] at outcomes
  obtain ⟨_, after, same, rfl, _⟩ := outcomes.exists_ok
  exact ⟨after, same⟩

/-- A class that is found is the one that the class space has. -/
theorem inSpace {name : String} {loaded : LoadedClass}
    (finds : setting.Finds (Resolve.load name) loaded) :
    setting.loader.space.find name = .ok loaded := by
  obtain ⟨after, ran⟩ := finds.initially (Resolve.load_uniform Loader.sameClasses name)
  obtain ⟨_, _, same⟩ := setting.loader.load_eq name
  simp only [Resolve.load, EStateM.adaptExcept, ClassLoading.load, same] at ran
  cases found : setting.loader.space.find name with
  | error =>
    rw [found] at ran
    cases ran
  | ok =>
    rw [found] at ran
    cases ran
    rfl

end Setting.Finds

end TestPlan
