import Mathlib.Data.List.Dedup
import Mathlib.Data.List.Forall2
import Mathlib.Data.List.Induction
import TestPlan.Proofs.Lowering.Lookups

/-!
What a layered loader answers: the search that is told by the calls its class space is built with,
whatever the loader remembers.
-/

namespace TestPlan

/-! ### Sources by their definitions -/

/-- The last of some definitions that has a name. -/
def Defines (definitions : List ClassDefinition) (name : String) (definition : ClassDefinition) :
    Prop :=
  ∃ before after, definitions = before ++ definition :: after ∧ definition.name = name ∧
    ∀ other ∈ after, other.name ≠ name

/-- None of some definitions has a name. -/
def Lacks (definitions : List ClassDefinition) (name : String) : Prop :=
  ∀ definition ∈ definitions, definition.name ≠ name

namespace ClassSource

variable {definitions : List ClassDefinition} {name : String} {definition : ClassDefinition}

/-- A new definition is the one of its name, and leaves those of other names. -/
theorem find?_define (source : ClassSource) (definition : ClassDefinition) (name : String) :
    (source.define definition).find? name =
      if definition.name = name then some definition else source.find? name := by
  unfold define find?
  by_cases same : definition.name = name
  · simp [same]
  · -- Definitions of the other name are not searched for, so dropping them does no harm.
    have other : ∀ kept : ClassDefinition,
        ((kept.name != definition.name) = true ∧ (kept.name == name) = true) ↔
          (kept.name == name) = true := by
      intro kept
      rw [and_iff_right_iff_imp, beq_iff_eq, bne_iff_ne]
      exact fun found => found ▸ Ne.symm same
    simp only [List.find?_cons, List.find?_filter, other, if_neg same, Bool.decide_eq_true,
      beq_eq_false_iff_ne.mpr same]

/-- Of several definitions of a name the last one counts, and then those defined before. -/
theorem find?_foldl_define (definitions : List ClassDefinition) (source : ClassSource)
    (name : String) : (definitions.foldl define source).find? name =
      (definitions.reverse.find? (·.name == name)).or (source.find? name) := by
  -- The induction is on the definitions, added to a source that may have others already.
  induction definitions generalizing source with
  | nil => rfl
  | cons definition rest ih =>
    rw [List.foldl_cons, ih, find?_define, List.reverse_cons, List.find?_append, Option.or_assoc]
    by_cases same : definition.name = name <;> simp [same]

/-- A source has the last definition of a name. -/
theorem find?_ofList_eq_some_iff :
    (ofList definitions).find? name = some definition ↔ Defines definitions name definition := by
  rw [ofList, find?_foldl_define, show ({} : ClassSource).find? name = none from rfl,
    Option.or_none, List.find?_eq_some_iff_append]
  simp only [beq_iff_eq, Bool.not_eq_true', beq_eq_false_iff_ne]
  constructor
  · rintro ⟨named, after, before, split, others⟩
    -- What comes before in the reversed list comes after in the list itself.
    refine ⟨before.reverse, after.reverse, ?_, named, by simpa using others⟩
    rw [← List.reverse_reverse definitions, split]
    simp
  · rintro ⟨before, after, rfl, named, others⟩
    exact ⟨named, after.reverse, before.reverse, by simp, by simpa using others⟩

/-- A source without a definition of a name finds none. -/
theorem find?_ofList_eq_none_iff :
    (ofList definitions).find? name = none ↔ Lacks definitions name := by
  rw [ofList, find?_foldl_define, show ({} : ClassSource).find? name = none from rfl,
    Option.or_none, List.find?_eq_none]
  simp [Lacks]

end ClassSource

/-! ### Class spaces by the calls that build them -/

/-- A call that describes a part of a class space. -/
inductive SpaceCall where
  /-- Adds a source with some definitions at the end of a layer. -/
  | source (layer : Layer) (definitions : List ClassDefinition)
  /-- Replaces the beginnings of names that only the host layer may define. -/
  | hostPrefixes (starts : List String)

namespace SpaceCall

/-- The sources that some calls give for a layer, in the order of the calls. -/
def given (layer : Layer) (calls : List SpaceCall) : List (Layer × List ClassDefinition) :=
  calls.filterMap fun
    | .source other definitions => if other = layer then some (layer, definitions) else none
    | .hostPrefixes _ => none

/-- The beginnings of host names that the last call for them gives. -/
def starts (calls : List SpaceCall) : List String :=
  (calls.filterMap fun
    | .source _ _ => none
    | .hostPrefixes starts => some starts).getLast?.getD defaultHostPrefixes

/-- The sources that are searched for a name: those of the host layer, or of all layers. -/
def searched (calls : List SpaceCall) (name : String) : List (Layer × List ClassDefinition) :=
  if (starts calls).any fun start => start.toList.isPrefixOf name.toList then given .host calls
  else given .instrumented calls ++ given .runtime calls ++ given .host calls

/-- What a search for a name answers in a class space that some calls describe. -/
inductive Answers (calls : List SpaceCall) (name : String) :
    Except ClassNotFound LoadedClass → Prop
  /-- The first source that defines the name gives its last definition. -/
  | found {before after : List (Layer × List ClassDefinition)} {layer : Layer}
      {definitions : List ClassDefinition} {definition : ClassDefinition} :
      searched calls name = before ++ (layer, definitions) :: after →
      (∀ other ∈ before, Lacks other.2 name) → Defines definitions name definition →
        Answers calls name (.ok ⟨definition, layer⟩)
  /-- A name that no source defines is reported with the layer of every source searched. -/
  | missing : (∀ other ∈ searched calls name, Lacks other.2 name) →
        Answers calls name (.error ⟨name, (searched calls name).map (·.1)⟩)

end SpaceCall

namespace ClassSpace

/-- The class space after one more call. -/
def extended (space : ClassSpace) : SpaceCall → ClassSpace
  | .source layer definitions => space.addSource layer (.ofList definitions)
  | .hostPrefixes starts => { space with hostPrefixes := starts }

/-- The class space that some calls describe. -/
def build (calls : List SpaceCall) : ClassSpace :=
  calls.foldl extended {}

/-- The sources of a layer. -/
def layer (space : ClassSpace) : Layer → List ClassSource
  | .instrumented => space.instrumented
  | .runtime => space.runtime
  | .host => space.host

/-- A call adds at the end of its layer, or replaces the beginnings of host names. -/
theorem layer_extended (space : ClassSpace) (call : SpaceCall) (layer : Layer) :
    (space.extended call).layer layer =
      space.layer layer ++ (SpaceCall.given layer [call]).map (ClassSource.ofList ·.2) := by
  cases call with
  | source other definitions => cases other <;> cases layer <;> simp [extended, addSource,
      ClassSpace.layer, SpaceCall.given]
  | hostPrefixes starts => cases layer <;> simp [extended, ClassSpace.layer, SpaceCall.given]

/-- A layer holds the sources given for it, in their order, however the calls are interleaved. -/
theorem layer_build (calls : List SpaceCall) (layer : Layer) :
    (build calls).layer layer = (SpaceCall.given layer calls).map (ClassSource.ofList ·.2) := by
  -- The induction is on the calls from the last one back.
  induction calls using List.reverseRecOn with
  | nil => cases layer <;> rfl
  | append_singleton calls call ih =>
    rw [build, List.foldl_append, ← build, List.foldl_cons, List.foldl_nil, layer_extended, ih,
      ← List.map_append, SpaceCall.given, SpaceCall.given, ← List.filterMap_append]
    rfl

/-- The beginnings of host names are those of the last call for them. -/
theorem hostPrefixes_build (calls : List SpaceCall) :
    (build calls).hostPrefixes = SpaceCall.starts calls := by
  induction calls using List.reverseRecOn with
  | nil => rfl
  | append_singleton calls call ih =>
    rw [build, List.foldl_append, ← build, List.foldl_cons, List.foldl_nil]
    unfold SpaceCall.starts at ih ⊢
    rw [List.filterMap_append]
    -- A call for a source leaves the beginnings that were given before.
    cases call with
    | source layer definitions => cases layer <;> simpa [extended, addSource] using ih
    | hostPrefixes starts => simp [extended]

/-- Every source that is given stands under its layer. -/
theorem map_given (layer : Layer) (calls : List SpaceCall) :
    ((SpaceCall.given layer calls).map (ClassSource.ofList ·.2)).map (layer, ·) =
      (SpaceCall.given layer calls).map fun (layer, definitions) =>
        (layer, ClassSource.ofList definitions) := by
  rw [List.map_map]
  refine List.map_congr_left fun source member => ?_
  obtain ⟨call, -, given⟩ := List.mem_filterMap.mp member
  split at given
  · split at given
    · cases given
      rfl
    · cases given
  · cases given

/-- The sources that may define a name are those that are searched for it. -/
theorem sourcesFor_build (calls : List SpaceCall) (name : String) :
    (build calls).sourcesFor name = (SpaceCall.searched calls name).map
      fun (layer, definitions) => (layer, ClassSource.ofList definitions) := by
  -- Each layer is described by its own calls, and only their order within a layer counts.
  have all : (build calls).sources = (SpaceCall.given .instrumented calls ++
      SpaceCall.given .runtime calls ++ SpaceCall.given .host calls).map
        fun (layer, definitions) => (layer, ClassSource.ofList definitions) := by
    rw [List.map_append, List.map_append, ← map_given, ← map_given, ← map_given, ← layer_build,
      ← layer_build, ← layer_build]
    rfl
  have host : (build calls).sources.filter (·.1 == .host) = (SpaceCall.given .host calls).map
      fun (layer, definitions) => (layer, ClassSource.ofList definitions) := by
    rw [← map_given, ← layer_build]
    simp [sources, ClassSpace.layer, List.filter_map, Function.comp_def,
      show (Layer.instrumented == Layer.host) = false from rfl,
      show (Layer.runtime == Layer.host) = false from rfl]
  unfold sourcesFor isHostOnly SpaceCall.searched
  rw [hostPrefixes_build, host, all]
  split <;> rfl

/-- The class that a source has for a name. -/
def loadedFrom (name : String) (source : Layer × List ClassDefinition) : Option LoadedClass :=
  ((ClassSource.ofList source.2).find? name).map (⟨·, source.1⟩)

/-- A source has no class for a name that it lacks. -/
theorem loadedFrom_eq_none_iff {name : String} {source : Layer × List ClassDefinition} :
    loadedFrom name source = none ↔ Lacks source.2 name := by
  rw [loadedFrom, Option.map_eq_none_iff, ClassSource.find?_ofList_eq_none_iff]

/-- A search finds a class in the first source that has one, or else names all it has searched. -/
theorem find_build (calls : List SpaceCall) (name : String) :
    (build calls).find name =
      match (SpaceCall.searched calls name).findSome? (loadedFrom name) with
      | some loaded => .ok loaded
      | none => .error ⟨name, (SpaceCall.searched calls name).map (·.1)⟩ := by
  unfold find
  rw [sourcesFor_build]
  simp only [List.findSome?_map, List.map_map]
  rfl

/-- A search answers what the calls tell. -/
theorem find_build_iff {calls : List SpaceCall} {name : String}
    {answer : Except ClassNotFound LoadedClass} :
    (build calls).find name = answer ↔ SpaceCall.Answers calls name answer := by
  rw [find_build]
  constructor
  · rintro rfl
    split
    · rename_i first
      obtain ⟨before, ⟨layer, definitions⟩, after, split, found, others⟩ :=
        List.findSome?_eq_some_iff.mp first
      obtain ⟨definition, defined, rfl⟩ := Option.map_eq_some_iff.mp found
      exact .found split (fun other member => loadedFrom_eq_none_iff.mp (others other member))
        (ClassSource.find?_ofList_eq_some_iff.mp defined)
    · rename_i none
      rw [List.findSome?_eq_none_iff] at none
      exact .missing fun other member => loadedFrom_eq_none_iff.mp (none other member)
  · intro answers
    cases answers with
    | @found before after layer definitions definition split others defines =>
      have first : loadedFrom name (layer, definitions) = some ⟨definition, layer⟩ := by
        rw [loadedFrom, ClassSource.find?_ofList_eq_some_iff.mpr defines, Option.map_some]
      rw [List.findSome?_eq_some_iff.mpr ⟨before, _, after, split, first,
        fun other member => loadedFrom_eq_none_iff.mpr (others other member)⟩]
    | missing lacks =>
      rw [List.findSome?_eq_none_iff.mpr fun other member =>
        loadedFrom_eq_none_iff.mpr (lacks other member)]

end ClassSpace

/-! ### Loading one class after the other -/

namespace Loader

/-- The answers to loads of some names, one after the other, and the loader after them. -/
def loadAll : List String → Loader → List (Except ClassNotFound LoadedClass) × Loader
  | [], loader => ([], loader)
  | name :: rest, loader =>
    match load name loader with
    | .ok loaded after => (loadAll rest after).map (.ok loaded :: ·) id
    | .error failure after => (loadAll rest after).map (.error failure :: ·) id

/-- The names of the classes that a loader remembers. -/
def remembered (loader : Loader) : List String :=
  loader.cache.map (·.1)

/-- A later loader has the class space of an earlier one, and remembers what some names gave. -/
structure Learned (loader : Loader) (names : List String) (after : Loader) : Prop where
  space : after.space = loader.space
  nodup : loader.remembered.Nodup → after.remembered.Nodup
  mem_iff : ∀ name, name ∈ after.remembered ↔ name ∈ loader.remembered ∨
    name ∈ names ∧ (loader.space.find name).isOk = true

/-- A loader that remembers a class has found it. -/
theorem find_of_lookup {loader : Loader} {name : String} {loaded : LoadedClass}
    (known : loader.cache.lookup name = some loaded) :
    name ∈ loader.remembered ∧ loader.space.find name = .ok loaded := by
  obtain ⟨before, after, split, -⟩ := List.lookup_eq_some_iff.mp known
  have member : (name, loaded) ∈ loader.cache := by simp [split]
  exact ⟨List.mem_map_of_mem member, loader.find_of_mem_cache _ member⟩

/-- A load answers what a search finds, and the class is remembered when there is one. -/
theorem load_learned (name : String) (loader : Loader) :
    ∃ after, loader.Learned [name] after ∧
      load name loader = match loader.space.find name with
        | .ok loaded => .ok loaded after
        | .error failure => .error failure after := by
  unfold load
  split
  · -- A class that is remembered need not be remembered again.
    rename_i loaded known
    obtain ⟨member, found⟩ := find_of_lookup known
    refine ⟨loader, ⟨rfl, id, fun other => ⟨.inl, ?_⟩⟩, by rw [found]⟩
    rintro (old | ⟨asked, -⟩)
    · exact old
    · exact List.mem_singleton.mp asked ▸ member
  · rename_i unknown
    -- What a lookup in the cache does not give is not among its names.
    have absent : name ∉ loader.remembered := by
      intro member
      obtain ⟨⟨_, loaded⟩, entry, rfl⟩ := List.mem_map.mp member
      have other := List.lookup_eq_none_iff.mp unknown _ entry
      simp at other
    split
    · rename_i loaded found
      refine ⟨loader.remember name loaded found, ⟨rfl, (List.nodup_cons.mpr ⟨absent, ·⟩),
        fun other => ?_⟩, by simp only [found]⟩
      -- The name is the only one that is remembered anew.
      rw [List.mem_singleton]
      show other ∈ name :: loader.remembered ↔ _
      rw [List.mem_cons, or_comm]
      refine or_congr_right ⟨fun same => ⟨same, ?_⟩, And.left⟩
      rw [same, found]
      rfl
    · -- A miss is not remembered, so the loader is as it was.
      rename_i failure missed
      refine ⟨loader, ⟨rfl, id, fun other => ⟨.inl, ?_⟩⟩, by rw [missed]⟩
      rintro (old | ⟨asked, isOk⟩)
      · exact old
      · rw [List.mem_singleton.mp asked, missed] at isOk
        cases isOk

/-- Loads answer what searches find, whatever has been loaded before. -/
theorem loadAll_learned (names : List String) (loader : Loader) :
    ∃ last, loader.Learned names last ∧
      loadAll names loader = (names.map loader.space.find, last) := by
  -- The induction is on the names still to be loaded, with a loader that may remember any.
  induction names generalizing loader with
  | nil => exact ⟨loader, ⟨rfl, id, by simp⟩, rfl⟩
  | cons name rest ih =>
    obtain ⟨after, first, ran⟩ := load_learned name loader
    obtain ⟨last, others, all⟩ := ih after
    refine ⟨last, ⟨others.space.trans first.space, others.nodup ∘ first.nodup, fun other => ?_⟩, ?_⟩
    · rw [others.mem_iff, first.mem_iff, first.space, List.mem_singleton, List.mem_cons, or_assoc,
        ← or_and_right]
    · rw [loadAll, ran, List.map_cons]
      cases loader.space.find name <;> simp [all, first.space]

/-- The names among those asked for whose classes have been loaded. -/
def loadedNames (names : List String) (answers : List (Except ClassNotFound LoadedClass)) :
    List String :=
  ((names.zip answers).filter (·.2.isOk)).map (·.1)

/-- The names whose classes have been loaded are those that a search finds. -/
theorem loadedNames_map (space : ClassSpace) (names : List String) :
    loadedNames names (names.map space.find) = names.filter fun name => (space.find name).isOk := by
  induction names with
  | nil => rfl
  | cons name rest ih =>
    rw [List.filter_cons, ← ih]
    cases found : (space.find name).isOk <;> simp [loadedNames, found]

/--
A loader gives every name the answer of a search that knows nothing but the calls by which the
class space has been built: the same one each time. It remembers as many classes as there are
distinct names among those that have been loaded.
-/
theorem loadAll_answers (calls : List SpaceCall) (names : List String) :
    let (answers, last) := loadAll names { space := .build calls }
    List.Forall₂ (SpaceCall.Answers calls) names answers ∧
      (∀ first second : Nat, names[first]? = names[second]? →
        answers[first]? = answers[second]?) ∧
      last.cached = (loadedNames names answers).dedup.length := by
  obtain ⟨last, learned, all⟩ := loadAll_learned names { space := .build calls }
  rw [all]
  refine ⟨?_, fun first second same => by simp [same], ?_⟩
  · rw [List.forall₂_map_right_iff, List.forall₂_same]
    exact fun name _ => ClassSpace.find_build_iff.mp rfl
  · -- Both lists hold the names that a search finds, and neither holds one twice.
    have remembers : last.remembered.Perm (loadedNames names
        (names.map (ClassSpace.build calls).find)).dedup := by
      rw [List.perm_ext_iff_of_nodup (learned.nodup List.nodup_nil) (List.nodup_dedup _)]
      intro name
      rw [learned.mem_iff, loadedNames_map, List.mem_dedup, List.mem_filter]
      simp [remembered]
    rw [← remembers.length_eq, cached, remembered, List.length_map]

end Loader

end TestPlan
