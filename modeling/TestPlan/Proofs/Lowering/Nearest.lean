import TestPlan.Proofs.Lowering.Hierarchy

/-! Which member a reference is resolved to, and why there is none when there is none. -/

namespace TestPlan

variable {α β μ : Type}

/-! ### Nearest declarations -/

/-- The first of some items that is as wanted. -/
def First (wanted : α → Prop) (items : List α) (item : α) : Prop :=
  ∃ before after, items = before ++ item :: after ∧ (∀ other ∈ before, ¬wanted other) ∧ wanted item

/-- The first wanted member of the first class that declares one. -/
structure Nearest (members : ClassDefinition → List μ) (wanted : μ → Prop)
    (chain : List LoadedClass) (declaring : LoadedClass) (member : μ) : Prop where
  onClass :
    First (fun loaded => ∃ member ∈ members loaded.definition, wanted member) chain declaring
  inOrder : First wanted (members declaring.definition) member

/-- No class declares a wanted member. -/
def Undeclared (members : ClassDefinition → List μ) (wanted : μ → Prop)
    (chain : List LoadedClass) : Prop :=
  ∀ loaded ∈ chain, ∀ member ∈ members loaded.definition, ¬wanted member

section Search

variable {wanted : μ → Prop} {test : μ → Bool}

/-- A search of a list finds the first item that is as wanted. -/
theorem find?_eq_some_iff_first (tests : ∀ item, test item = true ↔ wanted item) {items : List μ}
    {item : μ} : items.find? test = some item ↔ First wanted items item := by
  simp only [List.find?_eq_some_iff_append, First, ← tests, Bool.not_eq_true', Bool.not_eq_true]
  exact ⟨fun ⟨last, before, after, split, others⟩ => ⟨before, after, split, others, last⟩,
    fun ⟨before, after, split, others, last⟩ => ⟨last, before, after, split, others⟩⟩

variable {members : ClassDefinition → List μ} {make : LoadedClass → μ → β}
  {chain : List LoadedClass}

/-- A search of classes one after the other finds the nearest declaration. -/
theorem findSome?_eq_some_iff_nearest (tests : ∀ item, test item = true ↔ wanted item)
    {found : β} :
    (chain.findSome? fun loaded => ((members loaded.definition).find? test).map (make loaded)) =
        some found ↔
      ∃ declaring member, Nearest members wanted chain declaring member ∧
        found = make declaring member := by
  simp only [List.findSome?_eq_some_iff, Option.map_eq_some_iff, Option.map_eq_none_iff,
    List.find?_eq_none, tests]
  constructor
  · rintro ⟨before, declaring, after, rfl, ⟨member, found, rfl⟩, others⟩
    -- The class declares the member that has been found on it.
    have declares : ∃ member ∈ members declaring.definition, wanted member :=
      ⟨member, List.mem_of_find?_eq_some found, (tests _).mp (List.find?_some found)⟩
    exact ⟨declaring, member, ⟨⟨before, after, rfl,
      fun other lower ⟨member, among, wanted⟩ => others other lower member among wanted,
      declares⟩, (find?_eq_some_iff_first tests).mp found⟩, rfl⟩
  · rintro ⟨declaring, member, ⟨⟨before, after, rfl, others, -⟩, first⟩, rfl⟩
    exact ⟨before, declaring, after, rfl, ⟨member, (find?_eq_some_iff_first tests).mpr first, rfl⟩,
      fun other lower member among wanted => others other lower ⟨member, among, wanted⟩⟩

/-- A search of classes one after the other finds nothing when none declares a wanted member. -/
theorem findSome?_eq_none_iff_undeclared (tests : ∀ item, test item = true ↔ wanted item) :
    (chain.findSome? fun loaded => ((members loaded.definition).find? test).map (make loaded)) =
        none ↔ Undeclared members wanted chain := by
  simp [List.findSome?_eq_none_iff, Undeclared, ← tests]

end Search

/-- A class has a constructor with some parameter types when it declares one with them. -/
theorem ClassDefinition.constructor?_eq (definition : ClassDefinition) (params : List String) :
    definition.constructor? params =
      if ⟨params⟩ ∈ definition.constructors then some ⟨params⟩ else none := by
  have same (declared : ConstructorDefinition) :
      (declared.params == params) = true ↔ declared = ⟨params⟩ := by
    rw [beq_iff_eq, ConstructorDefinition.mk.injEq]
  unfold constructor?
  cases searched : definition.constructors.find? (·.params == params) with
  | some found =>
    have named := List.find?_some searched
    cases (same found).mp named
    rw [if_pos (List.mem_of_find?_eq_some searched)]
  | none =>
    rw [if_neg fun declared => List.find?_eq_none.mp searched _ declared ((same _).mpr rfl)]

/-! ### Members that references name -/

namespace ClassSpace

variable (space : ClassSpace)

/-- A class of one of some parameter types cannot be loaded. -/
def MissesParameter (params : List ValueType) (failure : ClassNotFound) : Prop :=
  ∃ param ∈ params, space.Translates param (.error failure)

/-- The method that a reference names: the nearest one with its name and parameter types. -/
def HasMethod (method : MethodReference) (handle : MethodHandle) : Prop :=
  ∃ names chain declaring member, space.Signs method.params names ∧
    space.Hierarchy (binaryName method.owner) chain ∧
    Nearest ClassDefinition.methods
      (fun member => member.name = method.name ∧ member.params = names) chain declaring member ∧
    handle = ⟨declaring.handle, member.name, names, member.returns, member.isStatic⟩

/-- All that a method is looked for with is there, but no class declares it. -/
def LacksMethod (method : MethodReference) (error : CompileError) : Prop :=
  ∃ names chain, space.Signs method.params names ∧
    space.Hierarchy (binaryName method.owner) chain ∧
    Undeclared ClassDefinition.methods
      (fun member => member.name = method.name ∧ member.params = names) chain ∧
    error = .memberNotFound (binaryName method.owner)
      (Resolve.memberSignature method.name names) .method

/-- The field that a reference names: the nearest one with its name. -/
def HasField (field : FieldReference) (handle : FieldHandle) : Prop :=
  ∃ chain declaring member, space.Hierarchy (binaryName field.owner) chain ∧
    Nearest ClassDefinition.fields (fun member => member.name = field.name) chain declaring member ∧
    handle = ⟨declaring.handle, member.name, member.type, member.isStatic⟩

/-- All classes that a field is looked for in are there, but none declares it. -/
def LacksField (field : FieldReference) (error : CompileError) : Prop :=
  ∃ chain, space.Hierarchy (binaryName field.owner) chain ∧
    Undeclared ClassDefinition.fields (fun member => member.name = field.name) chain ∧
    error = .memberNotFound (binaryName field.owner) field.name .field

/-- The constructor with some parameter types, which its class declares itself. -/
def HasConstructor (owner : String) (params : List ValueType)
    (found : LoadedClass × ConstructorHandle) : Prop :=
  ∃ loaded names, space.find (binaryName owner) = .ok loaded ∧ space.Signs params names ∧
    ⟨names⟩ ∈ loaded.definition.constructors ∧ found = (loaded, ⟨loaded.handle, names⟩)

/-- A class and some parameter types are there, but the class has no constructor with them. -/
def LacksConstructor (owner : String) (params : List ValueType) (error : CompileError) : Prop :=
  ∃ loaded names, space.find (binaryName owner) = .ok loaded ∧ space.Signs params names ∧
    ⟨names⟩ ∉ loaded.definition.constructors ∧
    error = .memberNotFound (binaryName owner) (Resolve.memberSignature constructorName names)
      .constructor

end ClassSpace

/-! ### Lookups that load classes and then search them -/

/-- A lookup fails only with classes that are missing, and finds what there is otherwise. -/
structure Decides (answer : Except CompileError α) (found : α → Prop)
    (missing : ClassNotFound → Prop) : Prop where
  ok_iff : ∀ result, answer = .ok result ↔ found result
  missing_of_error : ∀ error, answer = .error error →
    ∃ failure, error = .classNotFound failure ∧ missing failure
  not_missing : ∀ result failure, found result → ¬missing failure

/--
A lookup finds exactly what there is to be found, fails with a missing class exactly when one is
missing, fails for want of the member exactly when that is absent, and ends in no other way.
-/
structure Resolution (answer : Except CompileError α) (found : α → Prop)
    (missing : ClassNotFound → Prop) (absent : CompileError → Prop) : Prop where
  ok_iff : ∀ result, answer = .ok result ↔ found result
  classNotFound_iff :
    (∃ failure, answer = .error (.classNotFound failure)) ↔ ∃ failure, missing failure
  missing_of_classNotFound :
    ∀ failure, answer = .error (.classNotFound failure) → missing failure
  memberNotFound_iff : ∀ className member kind,
    answer = .error (.memberNotFound className member kind) ↔
      absent (.memberNotFound className member kind)
  ends : (∃ result, answer = .ok result) ∨ (∃ failure, answer = .error (.classNotFound failure)) ∨
    ∃ className member kind, answer = .error (.memberNotFound className member kind)

namespace Decides

variable {answer : Except CompileError α} {answer' : Except CompileError β} {found : α → Prop}
  {found' : β → Prop} {missing missing' : ClassNotFound → Prop}

/-- Two lookups find what both find, and fail with a class that either of them misses. -/
theorem and (first : Decides answer found missing) (second : Decides answer' found' missing') :
    Decides (answer >>= fun result => answer' >>= fun result' => .ok (result, result'))
      (fun results => found results.1 ∧ found' results.2)
      fun failure => missing failure ∨ missing' failure where
  ok_iff results := by
    rw [← first.ok_iff, ← second.ok_iff]
    cases answer <;> cases answer' <;> simp [Bind.bind, Except.bind, Prod.ext_iff]
  missing_of_error error failed := by
    cases ran : answer with
    | error other =>
      rw [ran] at failed
      cases failed
      obtain ⟨failure, same, missed⟩ := first.missing_of_error error ran
      exact ⟨failure, same, .inl missed⟩
    | ok result =>
      rw [ran] at failed
      cases ran' : answer' with
      | error other =>
        rw [ran'] at failed
        cases failed
        obtain ⟨failure, same, missed⟩ := second.missing_of_error error ran'
        exact ⟨failure, same, .inr missed⟩
      | ok result' =>
        rw [ran'] at failed
        cases failed
  not_missing results failure finds :=
    not_or.mpr ⟨first.not_missing _ _ finds.1, second.not_missing _ _ finds.2⟩

/-- A search of what has been loaded resolves a member, or tells that it is absent. -/
theorem resolution {search : α → Except CompileError β} {finds : β → Prop}
    {absent : CompileError → Prop} (decides : Decides answer found missing)
    (searches : ∀ result error, search result = .error error →
      ∃ className member kind, error = .memberNotFound className member kind)
    (finds_iff : ∀ handle, finds handle ↔ ∃ result, found result ∧ search result = .ok handle)
    (absent_iff : ∀ error, absent error ↔ ∃ result, found result ∧ search result = .error error) :
    Resolution (answer >>= search) finds missing absent := by
  simp only [← decides.ok_iff] at finds_iff absent_iff
  cases ran : answer with
  | error error =>
    obtain ⟨failure, rfl, missed⟩ := decides.missing_of_error error ran
    simp only [ran, reduceCtorEq, false_and, exists_false, iff_false] at finds_iff absent_iff
    exact {
      ok_iff := fun handle => ⟨nofun, fun finds => absurd finds (finds_iff handle)⟩
      classNotFound_iff := ⟨fun _ => ⟨failure, missed⟩, fun _ => ⟨failure, rfl⟩⟩
      missing_of_classNotFound := by
        rintro _ ⟨⟩
        exact missed
      memberNotFound_iff := fun _ _ _ => ⟨nofun, fun absent => absurd absent (absent_iff _)⟩
      ends := .inr (.inl ⟨failure, rfl⟩) }
  | ok result =>
    have present := fun failure =>
      decides.not_missing result failure ((decides.ok_iff result).mp ran)
    simp only [ran, Except.ok.injEq, exists_eq_left'] at finds_iff absent_iff
    exact {
      ok_iff := fun handle => (finds_iff handle).symm
      classNotFound_iff := by
        constructor
        · rintro ⟨failure, failed⟩
          obtain ⟨_, _, _, ⟨⟩⟩ := searches result _ failed
        · rintro ⟨failure, missed⟩
          exact absurd missed (present failure)
      missing_of_classNotFound := by
        intro failure failed
        obtain ⟨_, _, _, ⟨⟩⟩ := searches result _ failed
      memberNotFound_iff := fun _ _ _ => (absent_iff _).symm
      ends := by
        show (∃ handle, search result = .ok handle) ∨ _
        cases searched : search result with
        | ok handle => exact .inl ⟨handle, rfl⟩
        | error error =>
          obtain ⟨className, member, kind, rfl⟩ := searches result error searched
          exact .inr (.inr ⟨className, member, kind, searched⟩) }

end Decides

namespace Resolve

variable {loader : Loader}

/-- A class is loaded exactly when the class space has it. -/
theorem loadOwner_decides (owner : String) (loader : Loader) :
    Decides (answer (loadOwner owner) loader)
      (fun loaded => loader.space.find (binaryName owner) = .ok loaded)
      fun failure => loader.space.find (binaryName owner) = .error failure := by
  rw [loadOwner, answer_load]
  cases loader.space.find (binaryName owner) with
  | ok loaded => exact ⟨by simp [Except.mapError], by simp [Except.mapError], by simp⟩
  | error failure =>
    refine ⟨by simp [Except.mapError], fun _ failed => ?_, by simp⟩
    cases failed
    exact ⟨failure, rfl, rfl⟩

/-- The names of parameter types are found exactly when the class space has all the types. -/
theorem signature_decides (params : List ValueType) (loader : Loader) :
    Decides (answer (signature params) loader) (loader.space.Signs params)
      (loader.space.MissesParameter params) where
  ok_iff _ := answer_signature_ok_iff
  missing_of_error _ failed := classNotFound_of_answer_signature failed
  not_missing _ failure signs := by
    rintro ⟨param, member, missing⟩
    exact signs.not_missing member failure missing

/-- The classes from an owner upwards are found exactly when all of them are there. -/
theorem hierarchy_decides (owner : String) (loader : Loader) :
    Decides (answer (hierarchy owner) loader) (loader.space.Hierarchy owner)
      (loader.space.Broken owner) where
  ok_iff _ := answer_hierarchy_ok_iff
  missing_of_error _ failed := broken_of_answer_hierarchy failed
  not_missing _ failure whole := whole.not_broken failure

/-- The result of a search, or the failure to be reported when there is none. -/
def orFail (result : Option α) (error : CompileError) : Except CompileError α :=
  match result with
  | some found => .ok found
  | none => .error error

/-- A search either finds something or ends with its failure. -/
theorem orFail_eq_ok_iff {result : Option α} {error : CompileError} {found : α} :
    orFail result error = .ok found ↔ result = some found := by
  cases result <;> simp [orFail]

/-- A search ends with its failure when it finds nothing. -/
theorem orFail_eq_error_iff {result : Option α} {error failure : CompileError} :
    orFail result error = .error failure ↔ result = none ∧ failure = error := by
  cases result <;> simp [orFail, eq_comm]

/-- A method is searched for once its parameter types and the classes have been loaded. -/
theorem answer_method (method : MethodReference) (loader : Loader) :
    answer (Resolve.method method) loader =
      (answer (signature method.params) loader >>= fun names =>
        answer (hierarchy (binaryName method.owner)) loader >>= fun chain => .ok (names, chain)) >>=
      fun (names, chain) => orFail (chain.findSome? (methodOn? method.name names))
        (.memberNotFound (binaryName method.owner) (memberSignature method.name names)
          .method) := by
  rw [Resolve.method, answer_bind (signature_plain _)
    (methodNamed_uniform Loader.sameClasses _ method.name), bind_assoc]
  refine bind_congr fun names => ?_
  have steps : methodNamed (binaryName method.owner) method.name names =
      hierarchy (binaryName method.owner) >>= _ := (bind_assoc (load _) superclassChain _).symm
  rw [steps, answer_bind (hierarchy_plain _), bind_assoc]
  · refine bind_congr fun chain => ?_
    show _ = orFail (chain.findSome? (methodOn? method.name names)) _
    split <;> rename_i searched <;> rw [searched] <;> rfl
  · intro chain
    split
    · exact .pure _
    · exact .throw rfl

/-- A field is searched for once the classes have been loaded. -/
theorem answer_field (field : FieldReference) (loader : Loader) :
    answer (Resolve.field field) loader =
      answer (hierarchy (binaryName field.owner)) loader >>= fun chain =>
        orFail (chain.findSome? (fieldOn? field.name))
          (.memberNotFound (binaryName field.owner) field.name .field) := by
  have steps : answer (Resolve.field field) loader = _ :=
    answer_bind (load_plain _) (fun start => by
      refine (superclassChain_uniform Loader.sameClasses start).bind fun chain => ?_
      split
      · exact .pure _
      · exact .throw rfl) loader
  rw [steps, hierarchy, answer_bind (load_plain _) (superclassChain_uniform Loader.sameClasses),
    answer_load]
  cases found : loader.space.find (binaryName field.owner) with
  | error failure => rfl
  | ok start =>
    show answer _ loader = answer (superclassChain start) loader >>= _
    -- The class that is named in the failure is the owner itself.
    rw [← ClassSpace.name_of_find found, answer_bind (superclassChain_plain _)]
    · refine bind_congr fun chain => ?_
      split <;> rename_i searched <;> rw [searched] <;> rfl
    · intro chain
      split
      · exact .pure _
      · exact .throw rfl

/-- Loading an owner is a lookup. -/
theorem loadOwner_plain (owner : String) : Plain (loadOwner owner : Resolve LoadedClass) :=
  load_plain _

/-- A constructor is searched for on its owner, once its parameter types have been loaded. -/
theorem answer_constructor (method : MethodReference) (loader : Loader) :
    answer (Resolve.constructor method) loader =
      (answer (loadOwner method.owner) loader >>= fun loaded =>
        answer (signature method.params) loader >>= fun names => .ok (loaded, names)) >>=
      fun (loaded, names) => orFail
        ((loaded.definition.constructor? names).map fun _ => (loaded, ⟨loaded.handle, names⟩))
        (.memberNotFound loaded.name (memberSignature constructorName names) .constructor) := by
  rw [Resolve.constructor, answer_bind (loadOwner_plain _) fun loaded =>
    (signature_uniform Loader.sameClasses _).bind fun names => constructorOn_uniform loaded names,
    bind_assoc]
  refine bind_congr fun loaded => ?_
  rw [answer_bind (signature_plain _) (constructorOn_uniform loaded), bind_assoc]
  refine bind_congr fun names => ?_
  show _ = orFail _ _
  unfold constructorOn
  split <;> rename_i searched <;> rw [searched] <;> rfl

/-! ### Members of all sorts -/

/-- A method is resolved to the nearest declaration with its name and parameter types. -/
theorem method_resolution (method : MethodReference) (loader : Loader) :
    Resolution (answer (Resolve.method method) loader) (loader.space.HasMethod method)
      (fun failure => loader.space.MissesParameter method.params failure ∨
        loader.space.Broken (binaryName method.owner) failure)
      (loader.space.LacksMethod method) := by
  have tests (names : List String) (member : MethodDefinition) :
      (member.name == method.name && member.params == names) = true ↔
        member.name = method.name ∧ member.params = names := by
    simp
  rw [answer_method]
  refine ((signature_decides _ loader).and (hierarchy_decides _ loader)).resolution ?_ ?_ ?_
  · rintro ⟨names, chain⟩ error failed
    exact ⟨_, _, _, (orFail_eq_error_iff.mp failed).2⟩
  · intro handle
    have nearest (names : List String) (chain : List LoadedClass) :
        chain.findSome? (methodOn? method.name names) = some handle ↔ _ :=
      findSome?_eq_some_iff_nearest (tests names)
    simp only [Prod.exists, orFail_eq_ok_iff, nearest, ClassSpace.HasMethod, and_assoc,
      exists_and_left]
  · intro error
    have undeclared (names : List String) (chain : List LoadedClass) :
        chain.findSome? (methodOn? method.name names) = none ↔ _ :=
      findSome?_eq_none_iff_undeclared (tests names)
    simp only [Prod.exists, orFail_eq_error_iff, undeclared, ClassSpace.LacksMethod, and_assoc]

/-- A field is resolved to the nearest declaration with its name. -/
theorem field_resolution (field : FieldReference) (loader : Loader) :
    Resolution (answer (Resolve.field field) loader) (loader.space.HasField field)
      (loader.space.Broken (binaryName field.owner)) (loader.space.LacksField field) := by
  have tests (member : FieldDefinition) :
      (member.name == field.name) = true ↔ member.name = field.name := beq_iff_eq
  rw [answer_field]
  refine (hierarchy_decides _ loader).resolution ?_ ?_ ?_
  · intro chain error failed
    exact ⟨_, _, _, (orFail_eq_error_iff.mp failed).2⟩
  · intro handle
    have nearest (chain : List LoadedClass) :
        chain.findSome? (fieldOn? field.name) = some handle ↔ _ :=
      findSome?_eq_some_iff_nearest tests
    simp only [orFail_eq_ok_iff, nearest, ClassSpace.HasField, exists_and_left]
  · intro error
    have undeclared (chain : List LoadedClass) :
        chain.findSome? (fieldOn? field.name) = none ↔ _ :=
      findSome?_eq_none_iff_undeclared tests
    simp only [orFail_eq_error_iff, undeclared, ClassSpace.LacksField]

/-- A constructor is resolved on its owner alone. -/
theorem constructor_resolution (method : MethodReference) (loader : Loader) :
    Resolution (answer (Resolve.constructor method) loader)
      (loader.space.HasConstructor method.owner method.params)
      (fun failure => loader.space.find (binaryName method.owner) = .error failure ∨
        loader.space.MissesParameter method.params failure)
      (loader.space.LacksConstructor method.owner method.params) := by
  rw [answer_constructor]
  refine ((loadOwner_decides _ loader).and (signature_decides _ loader)).resolution ?_ ?_ ?_
  · rintro ⟨loaded, names⟩ error failed
    exact ⟨_, _, _, (orFail_eq_error_iff.mp failed).2⟩
  · intro found
    simp only [Prod.exists, orFail_eq_ok_iff, ClassSpace.HasConstructor, and_assoc,
      ClassDefinition.constructor?_eq]
    refine exists_congr fun loaded => exists_congr fun names =>
      and_congr_right fun _ => and_congr_right fun _ => ?_
    split <;> simp [*, eq_comm]
  · intro error
    simp only [Prod.exists, orFail_eq_error_iff, ClassSpace.LacksConstructor, and_assoc,
      ClassDefinition.constructor?_eq]
    refine exists_congr fun loaded => exists_congr fun names =>
      and_congr_right fun found => and_congr_right fun _ => ?_
    rw [ClassSpace.name_of_find found]
    split <;> simp [*]

/-- The constructor without parameters is searched for like any other. -/
theorem defaultConstructor_eq_constructor (className : String) :
    (defaultConstructor className : Resolve (LoadedClass × ConstructorHandle)) =
      constructor { owner := className, name := constructorName, params := [], returns := .void } :=
  rfl

end Resolve

/-- From an owner upwards come finitely many classes until none or a known one follows. -/
theorem ClassSpace.exists_hierarchy_or_broken (space : ClassSpace) (owner : String) :
    (∃ chain, space.Hierarchy owner chain ∧ chain.length ≤ space.definedNames.length) ∨
      ∃ failure, space.Broken owner failure := by
  rcases Resolve.answer_hierarchy owner { space } with
    ⟨chain, -, whole⟩ | ⟨failure, -, broken⟩
  · exact .inl ⟨chain, whole, whole.ascent.length_le⟩
  · exact .inr ⟨failure, broken⟩

/--
References are resolved to the nearest declarations, whatever classes there are and whatever has
been loaded: those of methods and fields on their owner or above, and those of constructors on
their owner alone. However the classes extend each other, there are no more classes above an owner
than the class space defines. A lookup fails with a missing class exactly when a parameter type or
a class above the owner is missing, and for want of the member exactly when all of them are there.
-/
theorem references_resolve (loader : Loader) :
    (∀ owner, (∃ chain, loader.space.Hierarchy owner chain ∧
      chain.length ≤ loader.space.definedNames.length) ∨
        ∃ failure, loader.space.Broken owner failure) ∧
    (∀ method, Resolution (Resolve.answer (Resolve.method method) loader)
      (loader.space.HasMethod method)
      (fun failure => loader.space.MissesParameter method.params failure ∨
        loader.space.Broken (binaryName method.owner) failure)
      (loader.space.LacksMethod method)) ∧
    (∀ field, Resolution (Resolve.answer (Resolve.field field) loader)
      (loader.space.HasField field) (loader.space.Broken (binaryName field.owner))
      (loader.space.LacksField field)) ∧
    (∀ method, Resolution (Resolve.answer (Resolve.constructor method) loader)
      (loader.space.HasConstructor method.owner method.params)
      (fun failure => loader.space.find (binaryName method.owner) = .error failure ∨
        loader.space.MissesParameter method.params failure)
      (loader.space.LacksConstructor method.owner method.params)) ∧
    ∀ className, Resolution (Resolve.answer (Resolve.defaultConstructor className) loader)
      (loader.space.HasConstructor className [])
      (fun failure => loader.space.find (binaryName className) = .error failure ∨
        loader.space.MissesParameter [] failure)
      (loader.space.LacksConstructor className []) :=
  ⟨loader.space.exists_hierarchy_or_broken, (Resolve.method_resolution · loader),
    (Resolve.field_resolution · loader), (Resolve.constructor_resolution · loader),
    fun className => by
      rw [Resolve.defaultConstructor_eq_constructor]
      exact Resolve.constructor_resolution _ loader⟩

-- The search ends also where two classes extend each other.
example : Resolve.answer (Resolve.method ⟨"A", "run", [], .void, false⟩)
    { space := { runtime := [.ofList [{ name := "A", superclass := some "B" },
        { name := "B", superclass := some "A" }]] } } =
      .error (.memberNotFound "A" "run()" .method) := by
  decide +kernel

end TestPlan
