import TestPlan.Generation.Request
import TestPlan.Proofs.ClassModel.Search

/-!
Which class a request has for a name: one of its own definitions, the helper class or one of the
platform classes, and none of those that a layer before it replaces.
-/

namespace TestPlan

/-! ### Definitions with a superclass -/

/-- What becomes of a definition in a request: it extends the object class if it needs to. -/
inductive ClassDefinition.Rooted (given : ClassDefinition) : ClassDefinition → Prop
  | kept : given.superclass ≠ none ∨ given.kind = .interface ∨ given.name = objectClass →
      Rooted given given
  | extended : given.superclass = none → given.kind ≠ .interface → given.name ≠ objectClass →
      Rooted given (given.extending (some objectClass))

namespace ClassDefinition

/-- A request takes each definition with its superclass, or with the object class instead. -/
theorem rooted_iff {given definition : ClassDefinition} :
    given.Rooted definition ↔ given.withObjectRoot = definition := by
  unfold withObjectRoot
  constructor
  · rintro (kept | ⟨none, notInterface, notObject⟩)
    · rw [if_neg]
      rintro ⟨none, notInterface, notObject⟩
      rcases kept with some | interface | object
      · exact some (Option.isNone_iff_eq_none.mp none)
      · exact notInterface interface
      · exact notObject object
    · rw [if_pos ⟨Option.isNone_iff_eq_none.mpr none, notInterface, notObject⟩]
  · split
    · rename_i needed
      rintro rfl
      exact .extended (Option.isNone_iff_eq_none.mp needed.1) needed.2.1 needed.2.2
    · rename_i needless
      rintro rfl
      refine .kept ?_
      by_contra needed
      rw [not_or, not_or, not_not] at needed
      exact needless ⟨Option.isNone_iff_eq_none.mpr needed.1, needed.2.1, needed.2.2⟩

/-- A definition keeps its name when it gets a superclass. -/
@[simp]
theorem name_withObjectRoot (definition : ClassDefinition) :
    definition.withObjectRoot.name = definition.name := by
  unfold withObjectRoot
  split <;> rfl

end ClassDefinition

/-! ### Layers -/

namespace ClassSource

/-- Definitions that come later replace those before. -/
theorem find?_ofList_append (first second : List ClassDefinition) (name : String) :
    (ofList (first ++ second)).find? name =
      ((ofList second).find? name).or ((ofList first).find? name) := by
  simp only [ofList, find?_foldl_define, show ({} : ClassSource).find? name = none from rfl,
    Option.or_none, List.reverse_append, List.find?_append]

/-- Among some definitions there is a last one of a name, or there is none. -/
theorem defines_or_lacks (definitions : List ClassDefinition) (name : String) :
    (∃ definition, Defines definitions name definition) ∨ Lacks definitions name := by
  cases found : (ofList definitions).find? name with
  | some definition => exact .inl ⟨definition, find?_ofList_eq_some_iff.mp found⟩
  | none => exact .inr (find?_ofList_eq_none_iff.mp found)

end ClassSource

namespace GenerationRequest

variable {given requested : List ClassDefinition} {name : String}

/-- A layer has the last definition that a request gives for a name, and then what it has anyway. -/
theorem find?_layerSource (given requested : List ClassDefinition) (name : String) :
    (layerSource given requested).find? name =
      (((ClassSource.ofList requested).find? name).map ClassDefinition.withObjectRoot).or
        ((ClassSource.ofList given).find? name) := by
  rw [layerSource, ClassSource.find?_ofList_append]
  congr 1
  simp only [ClassSource.ofList, ClassSource.find?_foldl_define,
    show ({} : ClassSource).find? name = none from rfl, Option.or_none, ← List.map_reverse,
    List.find?_map, Function.comp_def, ClassDefinition.name_withObjectRoot]

/-- A layer has what the request gives for a name. -/
theorem find?_layerSource_of_defines {requestedOne definition : ClassDefinition}
    (defines : Defines requested name requestedOne) (rooted : requestedOne.Rooted definition) :
    (layerSource given requested).find? name = some definition := by
  rw [find?_layerSource, ClassSource.find?_ofList_eq_some_iff.mpr defines, Option.map_some,
    ClassDefinition.rooted_iff.mp rooted, Option.some_or]

/-- A layer has nothing but what it has anyway for a name that the request gives no class for. -/
theorem find?_layerSource_of_lacks (lacks : Lacks requested name) :
    (layerSource given requested).find? name = (ClassSource.ofList given).find? name := by
  rw [find?_layerSource, ClassSource.find?_ofList_eq_none_iff.mpr lacks]
  rfl

end GenerationRequest

/-- The name begins like those that only the host layer may define. -/
def HostName (name : String) : Prop :=
  ∃ start ∈ defaultHostPrefixes, start.toList <+: name.toList

instance (name : String) : Decidable (HostName name) :=
  inferInstanceAs (Decidable (∃ start ∈ defaultHostPrefixes, start.toList <+: name.toList))

/-- The platform classes all begin like those that only the host layer may define. -/
theorem lacks_platformClasses {name : String} (other : ¬HostName name) :
    Lacks platformClasses name := by
  rintro definition member rfl
  have names : ∀ definition ∈ platformClasses, HostName definition.name := by decide +kernel
  exact other (names definition member)

namespace GenerationRequest

variable {request : GenerationRequest} {helpers : HelperLibrary} {name : String}
  {answer : Except ClassNotFound LoadedClass}

/-- Which class a request has for a name, and why it has none when it has none. -/
inductive Gives (request : GenerationRequest) (helpers : HelperLibrary) (name : String) :
    Except ClassNotFound LoadedClass → Prop
  /-- Of names that only the host layer may define the request may have definitions there. -/
  | hostOnly {given definition : ClassDefinition} : HostName name →
      Defines request.classes.host name given → given.Rooted definition →
        Gives request helpers name (.ok ⟨definition, .host⟩)
  /-- Then there are the platform classes. -/
  | platform {definition : ClassDefinition} : HostName name →
      Lacks request.classes.host name → Defines platformClasses name definition →
        Gives request helpers name (.ok ⟨definition, .host⟩)
  | hostMissing : HostName name → Lacks request.classes.host name → Lacks platformClasses name →
      Gives request helpers name (.error ⟨name, [.host]⟩)
  /-- Of other names the instrumented classes come first, and then those of the runtime layer. -/
  | instrumented {given definition : ClassDefinition} : ¬HostName name →
      Defines request.classes.instrumented name given → given.Rooted definition →
        Gives request helpers name (.ok ⟨definition, .instrumented⟩)
  | runtime {given definition : ClassDefinition} : ¬HostName name →
      Lacks request.classes.instrumented name →
      Defines request.classes.runtime name given → given.Rooted definition →
        Gives request helpers name (.ok ⟨definition, .runtime⟩)
  /-- The helper class stands in the runtime layer unless the request replaces it. -/
  | helper : ¬HostName name → Lacks request.classes.instrumented name →
      Lacks request.classes.runtime name → helpers.binaryName = name →
        Gives request helpers name (.ok ⟨helpers.classDefinition, .runtime⟩)
  | host {given definition : ClassDefinition} : ¬HostName name →
      Lacks request.classes.instrumented name → Lacks request.classes.runtime name →
      helpers.binaryName ≠ name →
      Defines request.classes.host name given → given.Rooted definition →
        Gives request helpers name (.ok ⟨definition, .host⟩)
  | missing : ¬HostName name → Lacks request.classes.instrumented name →
      Lacks request.classes.runtime name → helpers.binaryName ≠ name →
      Lacks request.classes.host name →
        Gives request helpers name (.error ⟨name, [.instrumented, .runtime, .host]⟩)

/-- Each name is given a class, or a reason why it has none. -/
theorem exists_gives (request : GenerationRequest) (helpers : HelperLibrary) (name : String) :
    ∃ answer, request.Gives helpers name answer := by
  have rooted (given : ClassDefinition) : given.Rooted given.withObjectRoot :=
    ClassDefinition.rooted_iff.mpr rfl
  by_cases hostName : HostName name
  · rcases ClassSource.defines_or_lacks request.classes.host name with ⟨given, host⟩ | noHost
    · exact ⟨_, .hostOnly hostName host (rooted given)⟩
    · rcases ClassSource.defines_or_lacks platformClasses name with ⟨given, platform⟩ | none
      · exact ⟨_, .platform hostName noHost platform⟩
      · exact ⟨_, .hostMissing hostName noHost none⟩
  · rcases ClassSource.defines_or_lacks request.classes.instrumented name with
      ⟨given, instrumented⟩ | noInstrumented
    · exact ⟨_, .instrumented hostName instrumented (rooted given)⟩
    · rcases ClassSource.defines_or_lacks request.classes.runtime name with
        ⟨given, runtime⟩ | noRuntime
      · exact ⟨_, .runtime hostName noInstrumented runtime (rooted given)⟩
      · by_cases named : helpers.binaryName = name
        · exact ⟨_, .helper hostName noInstrumented noRuntime named⟩
        · rcases ClassSource.defines_or_lacks request.classes.host name with
            ⟨given, host⟩ | noHost
          · exact ⟨_, .host hostName noInstrumented noRuntime named host (rooted given)⟩
          · exact ⟨_, .missing hostName noInstrumented noRuntime named noHost⟩

/-- Only the host layer is searched for the names that only it may define. -/
theorem sourcesFor_classSpace_of_hostName (hostName : HostName name) :
    (request.classSpace helpers).sourcesFor name =
      [(.host, layerSource platformClasses request.classes.host)] := by
  have hostOnly : (request.classSpace helpers).isHostOnly name = true := by
    simpa [ClassSpace.isHostOnly, classSpace, HostName] using hostName
  rw [ClassSpace.sourcesFor, if_pos hostOnly]
  rfl

/-- All layers are searched for other names, each of one source. -/
theorem sourcesFor_classSpace_of_not_hostName (hostName : ¬HostName name) :
    (request.classSpace helpers).sourcesFor name =
      [(.instrumented, layerSource [] request.classes.instrumented),
        (.runtime, layerSource [helpers.classDefinition] request.classes.runtime),
        (.host, layerSource platformClasses request.classes.host)] := by
  have hostOnly : ¬(request.classSpace helpers).isHostOnly name = true := by
    simpa [ClassSpace.isHostOnly, classSpace, HostName] using hostName
  rw [ClassSpace.sourcesFor, if_neg hostOnly]
  rfl

/-- The helper class is the only one that the runtime layer has anyway. -/
theorem find?_ofList_helper (helpers : HelperLibrary) (name : String) :
    (ClassSource.ofList [helpers.classDefinition]).find? name =
      if helpers.binaryName = name then some helpers.classDefinition else none :=
  ClassSource.find?_define {} helpers.classDefinition name

/-- A search finds the class that a name is given. -/
theorem find_of_gives (gives : request.Gives helpers name answer) :
    (request.classSpace helpers).find name = answer := by
  have platform (hostName : ¬HostName name) :
      (ClassSource.ofList platformClasses).find? name = none :=
    ClassSource.find?_ofList_eq_none_iff.mpr (lacks_platformClasses hostName)
  have nothing : (ClassSource.ofList []).find? name = none := rfl
  unfold ClassSpace.find
  cases gives with
  | hostOnly hostName host rooted =>
    simp [sourcesFor_classSpace_of_hostName hostName, find?_layerSource_of_defines host rooted]
  | platform hostName noHost platform =>
    simp [sourcesFor_classSpace_of_hostName hostName, find?_layerSource_of_lacks noHost,
      ClassSource.find?_ofList_eq_some_iff.mpr platform]
  | hostMissing hostName noHost none =>
    simp [sourcesFor_classSpace_of_hostName hostName, find?_layerSource_of_lacks noHost,
      ClassSource.find?_ofList_eq_none_iff.mpr none]
  | instrumented hostName instrumented rooted =>
    simp [sourcesFor_classSpace_of_not_hostName hostName,
      find?_layerSource_of_defines instrumented rooted]
  | runtime hostName noInstrumented runtime rooted =>
    simp [sourcesFor_classSpace_of_not_hostName hostName,
      find?_layerSource_of_lacks noInstrumented, nothing,
      find?_layerSource_of_defines runtime rooted]
  | helper hostName noInstrumented noRuntime named =>
    simp [sourcesFor_classSpace_of_not_hostName hostName,
      find?_layerSource_of_lacks noInstrumented, nothing, find?_layerSource_of_lacks noRuntime,
      find?_ofList_helper, named]
  | host hostName noInstrumented noRuntime named host rooted =>
    simp [sourcesFor_classSpace_of_not_hostName hostName,
      find?_layerSource_of_lacks noInstrumented, nothing, find?_layerSource_of_lacks noRuntime,
      find?_ofList_helper, named, find?_layerSource_of_defines host rooted]
  | missing hostName noInstrumented noRuntime named noHost =>
    simp [sourcesFor_classSpace_of_not_hostName hostName,
      find?_layerSource_of_lacks noInstrumented, nothing, find?_layerSource_of_lacks noRuntime,
      find?_ofList_helper, named, find?_layerSource_of_lacks noHost, platform hostName]

/-- A search finds nothing but the class that a name is given. -/
theorem find_eq_iff_gives :
    (request.classSpace helpers).find name = answer ↔ request.Gives helpers name answer := by
  constructor
  · rintro rfl
    obtain ⟨answer, gives⟩ := request.exists_gives helpers name
    rwa [find_of_gives gives]
  · exact find_of_gives

/--
A loader for a request gives each of some names the class that the request has for it, and no other
answer, whichever names have been loaded before.
-/
theorem loadAll_eq_iff_gives (request : GenerationRequest) (helpers : HelperLibrary)
    (names : List String) (answers : List (Except ClassNotFound LoadedClass)) :
    (Loader.loadAll names (request.loader helpers)).1 = answers ↔
      List.Forall₂ (request.Gives helpers) names answers := by
  obtain ⟨last, -, all⟩ := Loader.loadAll_learned names (request.loader helpers)
  -- Each answer is that of a search in the class space of the request.
  have searches : (fun name answer => (request.classSpace helpers).find name = answer) =
      request.Gives helpers := by
    funext name answer
    exact propext find_eq_iff_gives
  rw [all, ← List.forall₂_eq_eq_eq, List.forall₂_map_left_iff, ← searches]
  rfl

end GenerationRequest

end TestPlan
