import TestPlan.ClassModel.RuntimeType

/-! Loading classes by name, and a loader that searches layers and remembers what it finds. -/

namespace TestPlan

/-- Definitions of distinct names; defining a name again replaces its definition. -/
structure ClassSource where
  definitions : List ClassDefinition := []

namespace ClassSource

/-- Adds a definition in place of any other of its name. -/
def define (source : ClassSource) (definition : ClassDefinition) : ClassSource :=
  ⟨definition :: source.definitions.filter (·.name != definition.name)⟩

/-- The source with the given definitions, the last of each name. -/
def ofList (definitions : List ClassDefinition) : ClassSource :=
  definitions.foldl define {}

/-- The definition of a name. -/
def find? (source : ClassSource) (name : String) : Option ClassDefinition :=
  source.definitions.find? (·.name == name)

/-- The number of names defined. -/
def size (source : ClassSource) : Nat :=
  source.definitions.length

end ClassSource

/-- The failure to find a class, with the layers of all sources that were searched. -/
structure ClassNotFound where
  name : String
  searched : List Layer
  deriving DecidableEq, Repr

/-- The wording of the failure. -/
def ClassNotFound.message (failure : ClassNotFound) : String :=
  "class `" ++ failure.name ++ "` not found (searched: ["
    ++ ", ".intercalate (failure.searched.map Layer.label) ++ "])"

/-- The beginnings of names that only the host layer may define. -/
def defaultHostPrefixes : List String :=
  ["java.", "javax.", "jdk.", "sun.", "com.sun."]

/-- Sources of definitions by layer, each layer in the order it was given. -/
structure ClassSpace where
  instrumented : List ClassSource := []
  runtime : List ClassSource := []
  host : List ClassSource := []
  hostPrefixes : List String := defaultHostPrefixes

namespace ClassSpace

/-- Adds a source at the end of a layer. -/
def addSource (space : ClassSpace) (layer : Layer) (source : ClassSource) : ClassSpace :=
  match layer with
  | .instrumented => { space with instrumented := space.instrumented ++ [source] }
  | .runtime => { space with runtime := space.runtime ++ [source] }
  | .host => { space with host := space.host ++ [source] }

/-- All sources in the order of search. -/
def sources (space : ClassSpace) : List (Layer × ClassSource) :=
  space.instrumented.map (Layer.instrumented, ·) ++ space.runtime.map (Layer.runtime, ·)
    ++ space.host.map (Layer.host, ·)

/-- Whether only the host layer may define a name. -/
def isHostOnly (space : ClassSpace) (name : String) : Bool :=
  space.hostPrefixes.any fun start => start.toList.isPrefixOf name.toList

/-- The sources that may define a name. -/
def sourcesFor (space : ClassSpace) (name : String) : List (Layer × ClassSource) :=
  if space.isHostOnly name then space.sources.filter (·.1 == .host) else space.sources

/-- The names that the sources define. -/
def definedNames (space : ClassSpace) : List String :=
  space.sources.flatMap fun (_, source) => source.definitions.map ClassDefinition.name

/-- The class of a name: the first definition among the sources that may define it. -/
def find (space : ClassSpace) (name : String) : Except ClassNotFound LoadedClass :=
  let sources := space.sourcesFor name
  match sources.findSome? fun (layer, source) => (source.find? name).map (⟨·, layer⟩) with
  | some loaded => .ok loaded
  | none => .error ⟨name, sources.map (·.1)⟩

end ClassSpace

/-- A way to load classes by name, from a state that loading may change. -/
class ClassLoading (ρ : Type) where
  /-- Loads the class of a binary name. -/
  load : String → EStateM ClassNotFound ρ LoadedClass
  /-- A bound on the number of classes from a loaded class up to the end of its superclasses. -/
  chainBound : ρ → LoadedClass → Nat

/-- A class space with the classes found in it so far. -/
structure Loader where
  space : ClassSpace
  cache : List (String × LoadedClass) := []
  /-- Every remembered class is the one that a search would find. -/
  find_of_mem_cache : ∀ entry ∈ cache, space.find entry.1 = .ok entry.2 := by simp

namespace Loader

/-- The number of names loaded. -/
def cached (loader : Loader) : Nat :=
  loader.cache.length

/-- Remembers a class that a search has found. -/
def remember (loader : Loader) (name : String) (loaded : LoadedClass)
    (found : loader.space.find name = .ok loaded) : Loader where
  space := loader.space
  cache := (name, loaded) :: loader.cache
  find_of_mem_cache := by
    -- The new entry was just found, the others were remembered before.
    intro entry member
    rcases List.mem_cons.mp member with rfl | earlier
    · exact found
    · exact loader.find_of_mem_cache entry earlier

/-- The class of a name, searched for once and remembered when it is found. -/
def load (name : String) : EStateM ClassNotFound Loader LoadedClass := fun loader =>
  match loader.cache.lookup name with
  | some loaded => .ok loaded loader
  | none =>
    match found : loader.space.find name with
    | .ok loaded => .ok loaded (loader.remember name loaded found)
    | .error failure => .error failure loader

/-- Classes are loaded from a class space, in which a chain of distinct names is finite. -/
@[default_instance]
instance : ClassLoading Loader where
  load := Loader.load
  chainBound loader _ := loader.space.definedNames.length

end Loader

end TestPlan
