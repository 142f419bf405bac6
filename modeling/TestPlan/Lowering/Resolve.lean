import TestPlan.Lowering.Error

/-! Resolving types and members of plans against loaded classes. -/

namespace TestPlan

/-- A lookup through a loader, which keeps what it has loaded even when it fails. -/
abbrev Lookup (ρ : Type) := EStateM CompileError ρ

/-- A lookup through the layered loader. -/
abbrev Resolve := Lookup Loader

namespace Resolve

variable {ρ : Type} [ClassLoading ρ]

/-- Loads a class by its binary name. -/
def load (name : String) : Lookup ρ LoadedClass :=
  (ClassLoading.load name).adaptExcept .classNotFound

/-- Loads a class by its internal name. -/
def loadOwner (owner : String) : Lookup ρ LoadedClass :=
  load (binaryName owner)

/-! ### Types -/

/-- The type of the running program that a type of a plan stands for. -/
def runtimeType : ValueType → Lookup ρ RuntimeType
  | .void => return .void
  | .primitive type => return .primitive type
  | .object className => return (← loadOwner className).type
  | .array component => return .array (← runtimeType component)

/-- The array levels that a type name ends in and what is before them, read from its end. -/
def arrayLevels : List Char → Nat × List Char
  | ']' :: '[' :: before =>
    let (levels, element) := arrayLevels before
    (levels + 1, element)
  | element => (0, element)

/-- The type with a name that does not end in brackets. -/
def elementNamed (name : String) : Lookup ρ RuntimeType := do
  if name = "void" then return .void
  match Primitive.ofKeyword? name with
  | some type => return .primitive type
  | none => return (← load name).type

/-- The type with a name: keyword or class name, then brackets for each array level. -/
def typeNamed (name : String) : Lookup ρ RuntimeType := do
  let (levels, element) := arrayLevels name.toList.reverse
  let type ← elementNamed (String.ofList element.reverse)
  return levels.repeat .array type

/-- The names of parameter types. -/
def signature (params : List ValueType) : Lookup ρ (List String) :=
  params.mapM fun param => return (← runtimeType param).typeName

/-! ### Members -/

/-- A class and its superclasses until a name comes again; at most `bound` names can come. -/
def chainFrom (seen : List String) : Nat → LoadedClass → Lookup ρ (List LoadedClass)
  | 0, _ => return []
  | bound + 1, loaded => do
    if seen.contains loaded.name then return []
    match loaded.definition.superclass with
    | none => return [loaded]
    | some parent =>
      let above ← chainFrom (loaded.name :: seen) bound (← load parent)
      return loaded :: above

/-- A loaded class and its superclasses, all of them loaded. -/
def superclassChain (loaded : LoadedClass) : Lookup ρ (List LoadedClass) := do
  chainFrom [] (ClassLoading.chainBound (← get) loaded) loaded

/-- The signature of a call in messages. -/
def memberSignature (name : String) (params : List String) : String :=
  name ++ "(" ++ ", ".intercalate params ++ ")"

/-- The constructor that a class itself declares for parameter types. -/
def constructorOn (loaded : LoadedClass) (params : List String) :
    Lookup ρ (LoadedClass × ConstructorHandle) :=
  match loaded.definition.constructor? params with
  | some _ => return (loaded, ⟨loaded.handle, params⟩)
  | none =>
    throw (.memberNotFound loaded.name (memberSignature constructorName params) .constructor)

/-- The class and constructor that a reference names. -/
def constructor (method : MethodReference) : Lookup ρ (LoadedClass × ConstructorHandle) := do
  let loaded ← loadOwner method.owner
  constructorOn loaded (← signature method.params)

/-- The class of an internal name and its constructor without parameters. -/
def defaultConstructor (className : String) : Lookup ρ (LoadedClass × ConstructorHandle) := do
  constructorOn (← loadOwner className) []

/-- The method that a class declares for a name and parameter types. -/
def methodOn? (name : String) (params : List String) (loaded : LoadedClass) :
    Option MethodHandle :=
  (loaded.definition.method? name params).map fun found =>
    ⟨loaded.handle, found.name, params, found.returns, found.isStatic⟩

/-- The method of a class or its nearest superclass for a name and parameter types. -/
def methodNamed (className name : String) (params : List String) : Lookup ρ MethodHandle := do
  let chain ← superclassChain (← load className)
  match chain.findSome? (methodOn? name params) with
  | some handle => return handle
  | none => throw (.memberNotFound className (memberSignature name params) .method)

/-- The method that a reference names. -/
def method (method : MethodReference) : Lookup ρ MethodHandle := do
  let params ← signature method.params
  methodNamed (binaryName method.owner) method.name params

/-- The field that a class declares for a name. -/
def fieldOn? (name : String) (loaded : LoadedClass) : Option FieldHandle :=
  (loaded.definition.field? name).map fun found =>
    ⟨loaded.handle, found.name, found.type, found.isStatic⟩

/-- The field that a reference names, on its owner or the nearest superclass. -/
def field (field : FieldReference) : Lookup ρ FieldHandle := do
  let start ← loadOwner field.owner
  let chain ← superclassChain start
  match chain.findSome? (fieldOn? field.name) with
  | some handle => return handle
  | none => throw (.memberNotFound start.name field.name .field)

/-- The constant of a loaded enum class. -/
def enumConstant (loaded : LoadedClass) (name : String) : Lookup ρ Constant :=
  match loaded.definition.enumConstant? name with
  | some found => return .enumConstant loaded.handle found
  | none => throw (.enumConstantNotFound loaded.name name)

/-- The routine of the helper class with a name. -/
def helper (helperClass name : String) : Lookup ρ HelperRoutine := do
  let loaded ← load helperClass
  if loaded.definition.methods.any (·.name == name) then return ⟨loaded.handle, name⟩
  else throw (.memberNotFound loaded.name name .helper)

end Resolve

end TestPlan
