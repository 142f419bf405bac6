import TestPlan.ClassModel.Basic
import TestPlan.Config.RoutineTable
import TestPlan.ValueType.Basic

/-! The layout of the reflection helper class: which routine serves which purpose and type. -/

namespace TestPlan

/-- What a family of helper routines does. -/
inductive HelperPurpose where
  | newArray
  | getField
  | setField
  | getElement
  | setElement
  deriving DecidableEq, Repr

namespace HelperPurpose

/-- Every purpose, in the order of declaration. -/
def all : List HelperPurpose :=
  [.newArray, .getField, .setField, .getElement, .setElement]

/-- The name of the purpose in a configuration. -/
def name : HelperPurpose → String
  | .newArray => "new_array"
  | .getField => "get_field"
  | .setField => "set_field"
  | .getElement => "get_element"
  | .setElement => "set_element"

end HelperPurpose

/-- Routines for one purpose: one for all types, and others for primitive types. -/
structure HelperFamily where
  generic : String
  specialized : RoutineTable := .empty
  deriving DecidableEq

namespace HelperFamily

/-- The family whose special routines are named by a type between two fixed parts. -/
def perPrimitive (generic before after : String) : HelperFamily where
  generic
  specialized := .ofList <| Primitive.all.map fun type =>
    (before ++ type.keyword.capitalize ++ after, type.keyword)

/-- The special routine for a type. -/
def specializedFor? (family : HelperFamily) (type : String) : Option String :=
  family.specialized.routineFor? type

/-- The special routine for a type, or else the one for all types. -/
def select (family : HelperFamily) (type : String) : String :=
  (family.specializedFor? type).getD family.generic

end HelperFamily

/-- The names of the helper class and of its routines. -/
structure HelperLibrary where
  /-- The package of the helper class, empty for the default package. -/
  package : String := ""
  className : String := "ReflectionUtils"
  /-- The routine that creates an object without a constructor. -/
  newInstance : String := "newInstance"
  newArray : HelperFamily := .perPrimitive "newArray" "new" "Array"
  getField : HelperFamily := .perPrimitive "getField" "get" "Field"
  setField : HelperFamily := .perPrimitive "setField" "set" "Field"
  getElement : HelperFamily := .perPrimitive "getElement" "get" "Element"
  setElement : HelperFamily := .perPrimitive "setElement" "set" "Element"
  deriving DecidableEq

namespace HelperLibrary

/-- The family for a purpose. -/
def family (library : HelperLibrary) : HelperPurpose → HelperFamily
  | .newArray => library.newArray
  | .getField => library.getField
  | .setField => library.setField
  | .getElement => library.getElement
  | .setElement => library.setElement

/-- The same class in another package. -/
def inPackage (library : HelperLibrary) (package : String) : HelperLibrary :=
  { library with package }

/-- The full name of the helper class. -/
def binaryName (library : HelperLibrary) : String :=
  if library.package.isEmpty then library.className
  else library.package ++ "." ++ library.className

/-- The parameter types of a routine for values of the given type. -/
def routineParams (type : String) : HelperPurpose → List String
  | .newArray => ["int"]
  | .getField => [objectClass, classClass, stringClass]
  | .setField => [objectClass, classClass, stringClass, type]
  | .getElement => [objectClass, "int"]
  | .setElement => [objectClass, "int", type]

/-- The result type of a routine for values of the given type. -/
def routineReturns (type : String) : HelperPurpose → String
  | .newArray => type ++ "[]"
  | .getField
  | .getElement => type
  | .setField
  | .setElement => "void"

/-- The routine of a family for all types; that for arrays is told the type by name. -/
def genericRoutine (family : HelperFamily) : HelperPurpose → MethodDefinition
  | .newArray => ⟨family.generic, [stringClass, "int"], objectClass, true⟩
  | purpose =>
    ⟨family.generic, routineParams objectClass purpose, routineReturns objectClass purpose, true⟩

/-- All routines of a family. -/
def routines (family : HelperFamily) (purpose : HelperPurpose) : List MethodDefinition :=
  genericRoutine family purpose :: family.specialized.entries.map fun (routine, type) =>
    ⟨routine, routineParams type purpose, routineReturns type purpose, true⟩

/-- The definition of the helper class, with every routine that can be selected. -/
def classDefinition (library : HelperLibrary) : ClassDefinition :=
  { ClassDefinition.ofName library.binaryName with
    methods := ⟨library.newInstance, [stringClass], objectClass, true⟩
      :: HelperPurpose.all.flatMap fun purpose => routines (library.family purpose) purpose }

end HelperLibrary

end TestPlan
