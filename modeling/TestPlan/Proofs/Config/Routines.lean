import Mathlib.Data.List.Nodup
import TestPlan.Config.Basic
import TestPlan.Proofs.Runs

/-! Which routine a valid family has for a type, and the routines that the helper class defines. -/

namespace TestPlan

/-! ### Types by name -/

/-- The name of an array type ends in a bracket. -/
theorem append_brackets_ne (name : String) {other : String}
    (last : other.toList.getLast? ≠ some ']') : name ++ "[]" ≠ other := by
  -- The last character of the name of an array type is that of the brackets.
  rintro rfl
  simp [String.toList_append] at last

/-- The class of all objects is not named like void. -/
theorem objectClass_ne_void : objectClass ≠ "void" := by
  decide

namespace Primitive

/-- A type that is found for a keyword has it. -/
theorem keyword_of_ofKeyword? {name : String} {type : Primitive}
    (found : ofKeyword? name = some type) : name = type.keyword := by
  unfold ofKeyword? at found
  have same := List.find?_some found
  exact (beq_iff_eq.mp same).symm

/-- The type with the keyword of a type is that type. -/
theorem ofKeyword?_keyword (type : Primitive) : ofKeyword? type.keyword = some type := by
  cases type <;> decide +kernel

/-- Types of one keyword are the same. -/
theorem keyword_injective : Function.Injective keyword := fun type other same => by
  rw [← Option.some_inj, ← ofKeyword?_keyword, same, ofKeyword?_keyword]

/-- No primitive type is named like void. -/
theorem keyword_ne_void (type : Primitive) : type.keyword ≠ "void" := by
  cases type <;> decide

/-- No primitive type is named like the class of texts. -/
theorem keyword_ne_stringClass (type : Primitive) : type.keyword ≠ stringClass := by
  cases type <;> decide

/-- No name of arrays is that of a primitive type. -/
theorem append_brackets_ne_keyword (name : String) (type : Primitive) :
    name ++ "[]" ≠ type.keyword :=
  append_brackets_ne name (by cases type <;> decide)

end Primitive

/-! ### Valid families -/

namespace HelperPurpose

variable {purpose : HelperPurpose} {claimed entries : List (String × String)}

/-- A special routine that passes serves a primitive type that was not served before. -/
theorem validateSpecialized_cons_ok {routine type : String}
    (valid : purpose.validateSpecialized claimed ((routine, type) :: entries) = .ok ()) :
    (∃ primitive : Primitive, type = primitive.keyword) ∧ claimed.lookup type = none ∧
      purpose.validateSpecialized ((type, routine) :: claimed) entries = .ok () := by
  unfold validateSpecialized at valid
  split_ifs at valid with unnamed unknown
  cases found : Primitive.ofKeyword? type with
  | none => exact absurd (by rw [found]; rfl) unknown
  | some primitive =>
    refine ⟨⟨primitive, Primitive.keyword_of_ofKeyword? found⟩, ?_⟩
    -- A type that is served already is refused, so only the other case is left.
    cases served : claimed.lookup type with
    | some first =>
      rw [served] at valid
      cases valid
    | none =>
      rw [served] at valid
      exact ⟨rfl, valid⟩

/-- Special routines that pass serve distinct primitive types, none of which was served before. -/
theorem validateSpecialized_ok (valid : purpose.validateSpecialized claimed entries = .ok ()) :
    (entries.map (·.2)).Nodup ∧ ∀ entry ∈ entries,
      claimed.lookup entry.2 = none ∧ ∃ type : Primitive, entry.2 = type.keyword := by
  -- The induction is on the entries, and what has been served grows along them.
  induction entries generalizing claimed with
  | nil => exact ⟨List.nodup_nil, nofun⟩
  | cons entry rest ih =>
    obtain ⟨routine, type⟩ := entry
    obtain ⟨primitive, served, later⟩ := validateSpecialized_cons_ok valid
    obtain ⟨distinct, others⟩ := ih later
    -- The types that come later are not served by this routine either.
    have apart : ∀ entry ∈ rest, entry.2 ≠ type ∧ claimed.lookup entry.2 = none := by
      intro entry member
      have free := (others entry member).1
      rw [List.lookup_cons] at free
      split at free
      · cases free
      · exact ⟨beq_eq_false_iff_ne.mp ‹_›, free⟩
    refine ⟨List.nodup_cons.mpr ⟨fun again => ?_, distinct⟩, fun entry member => ?_⟩
    · obtain ⟨entry, member, same⟩ := List.mem_map.mp again
      exact (apart entry member).1 same
    · rcases List.mem_cons.mp member with rfl | later
      · exact ⟨served, primitive⟩
      · exact ⟨(apart entry later).2, (others entry later).2⟩

end HelperPurpose

namespace HelperFamily

/-- The special routines of a family serve primitive types, and no type is served by two. -/
structure Unambiguous (family : HelperFamily) : Prop where
  primitive : ∀ entry ∈ family.specialized.entries, ∃ type : Primitive, entry.2 = type.keyword
  single : (family.specialized.entries.map (·.2)).Nodup

/-- A valid family is unambiguous. -/
theorem unambiguous_of_validate {family : HelperFamily} {purpose : HelperPurpose}
    (valid : family.validate purpose = .ok ()) : family.Unambiguous := by
  unfold validate at valid
  split_ifs at valid
  obtain ⟨single, served⟩ := HelperPurpose.validateSpecialized_ok valid
  exact ⟨fun entry member => (served entry member).2, single⟩

/-- The special routine that is found for a type serves it. -/
theorem mem_of_specializedFor? {family : HelperFamily} {type routine : String}
    (found : family.specializedFor? type = some routine) :
    (routine, type) ∈ family.specialized.entries := by
  obtain ⟨⟨_, served⟩, first, rfl⟩ := Option.map_eq_some_iff.mp found
  have same := List.find?_some first
  exact beq_iff_eq.mp same ▸ List.mem_of_find?_eq_some first

/-- When no special routine is found for a type, none serves it. -/
theorem not_mem_of_specializedFor? {family : HelperFamily} {type : String}
    (absent : family.specializedFor? type = none) (routine : String) :
    (routine, type) ∉ family.specialized.entries := fun member =>
  List.find?_eq_none.mp (Option.map_eq_none_iff.mp absent) _ member (BEq.rfl)

/--
The routine of a family that serves a type: its one special routine for a primitive type that has
such a routine, and otherwise the routine for all types.
-/
inductive Serves (family : HelperFamily) : Option Primitive → String → Prop
  | special {type : Primitive} {routine : String} :
      (routine, type.keyword) ∈ family.specialized.entries →
      (∀ other, (other, type.keyword) ∈ family.specialized.entries → other = routine) →
        Serves family (some type) routine
  | generic {type : Option Primitive} :
      (∀ primitive ∈ type, ∀ routine,
        (routine, primitive.keyword) ∉ family.specialized.entries) →
        Serves family type family.generic

/-- A family selects the routine that serves the primitive type of a name, if it is one. -/
theorem Unambiguous.serves_select {family : HelperFamily} (unambiguous : family.Unambiguous)
    {name : String} {type : Option Primitive}
    (named : ∀ primitive : Primitive, name = primitive.keyword ↔ type = some primitive) :
    family.Serves type (family.select name) := by
  cases found : family.specializedFor? name with
  | some routine =>
    rw [select, found, Option.getD_some]
    have member := mem_of_specializedFor? found
    -- Only a primitive type can have a routine of its own, and it has no second one.
    obtain ⟨primitive, rfl⟩ := unambiguous.primitive _ member
    obtain rfl := (named primitive).mp rfl
    refine .special member fun other again => ?_
    exact congrArg Prod.fst (List.inj_on_of_nodup_map unambiguous.single again member rfl)
  | none =>
    rw [select, found, Option.getD_none]
    refine .generic fun primitive same routine member => ?_
    rw [(named primitive).mpr same] at found
    exact not_mem_of_specializedFor? found routine member

end HelperFamily

namespace HelperLibrary

/-- The families of a valid library are unambiguous. -/
theorem unambiguous_of_validate {library : HelperLibrary} (valid : library.validate = .ok ())
    (purpose : HelperPurpose) : (library.family purpose).Unambiguous := by
  have families : HelperPurpose.all.forM (fun purpose =>
      (library.family purpose).validate purpose) = .ok () := by
    -- The families come last, so all earlier checks have passed.
    unfold validate at valid
    split_ifs at valid
    all_goals first | cases valid | exact valid
  refine HelperFamily.unambiguous_of_validate (forM_eq_ok_iff.mp families purpose ?_)
  cases purpose <;> decide

end HelperLibrary

/-- A valid configuration has a valid helper library. -/
theorem CompilerConfig.helpers_of_validate {config : CompilerConfig}
    (valid : config.validate = .ok ()) : config.helpers.validate = .ok () := by
  unfold validate at valid
  split_ifs at valid
  exact valid

/-! ### The helper class -/

namespace HelperLibrary

/-- The helper class has a routine that creates objects. -/
theorem newInstance_mem (library : HelperLibrary) :
    ⟨library.newInstance, [stringClass], objectClass, true⟩ ∈ library.classDefinition.methods :=
  .head _

/-- The helper class has every routine of every family. -/
theorem mem_methods {library : HelperLibrary} {purpose : HelperPurpose} {method : MethodDefinition}
    (member : method ∈ routines (library.family purpose) purpose) :
    method ∈ library.classDefinition.methods := by
  refine .tail _ (List.mem_flatMap.mpr ⟨purpose, ?_, member⟩)
  cases purpose <;> decide

section Selected

variable (library : HelperLibrary) (purpose : HelperPurpose) {type : String}

/-- The special routine that a family selects is in the helper class. -/
theorem special_mem_methods {routine : String}
    (found : (library.family purpose).specializedFor? type = some routine) :
    ⟨(library.family purpose).select type, routineParams type purpose, routineReturns type purpose,
      true⟩ ∈ library.classDefinition.methods := by
  rw [HelperFamily.select, found, Option.getD_some]
  exact mem_methods (.tail _ (List.mem_map.mpr
    ⟨_, HelperFamily.mem_of_specializedFor? found, rfl⟩))

/-- The routine for all types that a family selects is in the helper class. -/
theorem generic_mem_methods (absent : (library.family purpose).specializedFor? type = none) :
    { genericRoutine (library.family purpose) purpose with
      name := (library.family purpose).select type } ∈ library.classDefinition.methods := by
  rw [HelperFamily.select, absent, Option.getD_none]
  have member : genericRoutine (library.family purpose) purpose ∈ library.classDefinition.methods :=
    mem_methods (.head _)
  cases purpose <;> exact member

/-- The routine that a family selects for a type is for that type or for all types. -/
theorem exists_mem_methods (unambiguous : (library.family purpose).Unambiguous)
    (notArray : purpose ≠ .newArray) (type : String) :
    ∃ served, (served = objectClass ∨ served = type) ∧ served ≠ "void" ∧
      ⟨(library.family purpose).select type, routineParams served purpose,
        routineReturns served purpose, true⟩ ∈ library.classDefinition.methods := by
  cases found : (library.family purpose).specializedFor? type with
  | some routine =>
    -- A type with a routine of its own is primitive, so it is not void.
    obtain ⟨primitive, same⟩ :=
      unambiguous.primitive _ (HelperFamily.mem_of_specializedFor? found)
    exact ⟨type, .inr rfl, fun void => primitive.keyword_ne_void (same.symm.trans void),
      library.special_mem_methods purpose found⟩
  | none =>
    refine ⟨objectClass, .inl rfl, objectClass_ne_void, ?_⟩
    have member := library.generic_mem_methods purpose found
    -- Of the routines for all types only that for arrays has other parameters.
    cases purpose with
    | newArray => exact absurd rfl notArray
    | _ => exact member

end Selected

end HelperLibrary

end TestPlan
