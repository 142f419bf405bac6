import TestPlan.Config.HelperLibrary
import TestPlan.Text.Alphanumeric

/-! The configuration of the plan compiler, and what makes one contradictory. -/

namespace TestPlan

/-- Settings of the log. -/
structure LogSettings where
  /-- What is logged when the environment does not say. -/
  filter : String := "info"
  /-- Whether entries are written as data. -/
  json : Bool := false
  deriving DecidableEq, Repr

/-- The configuration of the plan compiler. -/
structure CompilerConfig where
  helpers : HelperLibrary := {}
  /-- How deep plans may be nested, without a limit when absent. -/
  maxDepth : Option UInt64 := none
  /-- Whether plan names are checked before a test is compiled. -/
  validatePlans : Bool := false
  logging : LogSettings := {}
  deriving DecidableEq

/-- Why a configuration is refused. -/
inductive ConfigFault where
  | emptyName (part : String)
  | notPrimitive (purpose : HelperPurpose) (routine type : String)
  | ambiguousSpecialization (purpose : HelperPurpose) (type first second : String)
  | invalidPackage (package : String)
  | zeroDepth
  deriving DecidableEq, Repr

/-- The wording of a refusal. -/
def ConfigFault.message : ConfigFault → String
  | .emptyName part => "empty name in `" ++ part ++ "`"
  | .notPrimitive purpose routine type =>
    "`" ++ purpose.name ++ "` specialises `" ++ routine ++ "` for non-primitive type `" ++ type
      ++ "`"
  | .ambiguousSpecialization purpose type first second =>
    "`" ++ purpose.name ++ "` has both `" ++ first ++ "` and `" ++ second ++ "` for `" ++ type
      ++ "`"
  | .invalidPackage package => "invalid helper package `" ++ package ++ "`"
  | .zeroDepth => "max_depth must be at least 1"

/-- Checks special routines in order, given the types that earlier ones serve. -/
def HelperPurpose.validateSpecialized (purpose : HelperPurpose)
    (claimed : List (String × String)) : List (String × String) → Except ConfigFault Unit
  | [] => .ok ()
  | (routine, type) :: rest =>
    if routine.isEmpty then .error (.emptyName purpose.name)
    else if (Primitive.ofKeyword? type).isNone then .error (.notPrimitive purpose routine type)
    else
      match claimed.lookup type with
      | some first => .error (.ambiguousSpecialization purpose type first routine)
      | none => purpose.validateSpecialized ((type, routine) :: claimed) rest

/-- Checks that a family names its routines and has at most one for each primitive type. -/
def HelperFamily.validate (family : HelperFamily) (purpose : HelperPurpose) :
    Except ConfigFault Unit :=
  if family.generic.isEmpty then .error (.emptyName purpose.name)
  else purpose.validateSpecialized [] family.specialized.entries

namespace HelperLibrary

/-- Whether a text is one part of a package name. -/
def isPackageSegment (segment : List Char) : Bool :=
  !segment.isEmpty && segment.all fun c => isAlphanumeric c || c == '_' || c == '$'

/-- Whether a text is a package name: parts joined by dots. -/
def isPackageName (package : String) : Bool :=
  (package.toList.splitOn '.').all isPackageSegment

/-- Checks names, package and families, in this order. -/
def validate (library : HelperLibrary) : Except ConfigFault Unit := do
  if library.className.isEmpty then throw (.emptyName "class_name")
  if library.newInstance.isEmpty then throw (.emptyName "new_instance")
  if !library.package.isEmpty && !isPackageName library.package then
    throw (.invalidPackage library.package)
  HelperPurpose.all.forM fun purpose => (library.family purpose).validate purpose

end HelperLibrary

namespace CompilerConfig

/-- Checks a configuration for contradictions. -/
def validate (config : CompilerConfig) : Except ConfigFault Unit :=
  if config.maxDepth = some 0 then .error .zeroDepth else config.helpers.validate

/-- The configuration with the helper class in another package. -/
def withHelperPackage (config : CompilerConfig) (package : String) : CompilerConfig :=
  { config with helpers := config.helpers.inPackage package }

end CompilerConfig

end TestPlan
