import TestPlan.Proofs.Lowering.Faithful
import TestPlan.Proofs.Lowering.Found
import TestPlan.Proofs.Lowering.Requests
import TestPlan.Proofs.Lowering.WritingPlans

/-!
The class identities in a test: each is the one that the class space has for the name, whichever
lookup it comes from, so that a name stands for one class throughout the test.
-/

namespace TestPlan

/-! ### The identities in a test -/

/-- The classes that a type refers to, at any number of array levels. -/
def RuntimeType.handles : RuntimeType → List ClassHandle
  | .object handle => [handle]
  | .array component => component.handles
  | .void
  | .primitive _ => []

/-- The classes that a constant refers to. -/
def Constant.handles : Constant → List ClassHandle
  | .classObject type => type.handles
  | .enumConstant enumClass _ => [enumClass]
  | _ => []

/-- The classes that an operand refers to. -/
def Operand.handles : Operand → List ClassHandle
  | .var _ => []
  | .constant value => value.handles

/-- Variables refer to no class. -/
@[simp] theorem Operand.handles_var (var : Var) : (Operand.var var).handles = [] :=
  rfl

/-- Integers refer to no class. -/
@[simp] theorem Operand.handles_int (value : Int32) :
    (Operand.constant (.int value)).handles = [] :=
  rfl

/-- Texts refer to no class. -/
@[simp] theorem Operand.handles_text (value : String) :
    (Operand.constant (.text value)).handles = [] :=
  rfl

/-- The class that declares the field which is assigned, if it is one. -/
def AssignTarget.handles : AssignTarget → List ClassHandle
  | .element _ _ => []
  | .field handle _ => [handle.declaring]

/-- The classes that declare the member of a statement, and those that its operands refer to. -/
def Statement.handles : Statement → List ClassHandle
  | .constructor handle args _ => handle.declaring :: args.flatMap Operand.handles
  | .method handle callee args _ =>
    handle.declaring :: (callee.toList ++ args).flatMap Operand.handles
  | .reflection helper args _ => helper.declaring :: args.flatMap Operand.handles
  | .constant value _ => value.handles
  | .fieldRead field owner _ => field.declaring :: owner.toList.flatMap Operand.handles
  | .assignment target value => target.handles ++ value.handles
  | .null _
  | .newArray _ _ => []

/-- All classes that a test refers to: in the types of variables, and in statements. -/
def TestCase.handles (test : TestCase) : List ClassHandle :=
  test.declared.flatMap (·.type.handles) ++ test.statements.flatMap Statement.handles

/-! ### Identities in a class space -/

namespace ClassSpace

/-- The class space has the class of this identity for its name. -/
def Identifies (space : ClassSpace) (handle : ClassHandle) : Prop :=
  ∃ loaded, space.find handle.name = .ok loaded ∧ loaded.handle = handle

variable {space : ClassSpace} {handle other : ClassHandle}

/-- Of each name the class space has one class. -/
theorem Identifies.origin_eq (identified : space.Identifies handle)
    (identified' : space.Identifies other) (same : handle.name = other.name) :
    handle.origin = other.origin := by
  obtain ⟨loaded, found, rfl⟩ := identified
  obtain ⟨loaded', found', rfl⟩ := identified'
  rw [same, found'] at found
  cases found
  rfl

/-- What the class space has for a name is loaded by every loader of it. -/
theorem Identifies.exists_load (identified : space.Identifies handle) {asked : Loader}
    (sameSpace : asked.space = space) : ∃ loaded later,
      Loader.load handle.name asked = .ok loaded later ∧ loaded.handle = handle := by
  obtain ⟨loaded, found, same⟩ := identified
  obtain ⟨later, _, ran⟩ := asked.load_eq handle.name
  rw [sameSpace, found] at ran
  exact ⟨loaded, later, ran, same⟩

end ClassSpace

namespace Setting.Finds

variable {setting : Setting Loader} {loaded : LoadedClass} {type : RuntimeType}

/-- A class that is loaded is that of its name in the class space. -/
theorem identifies {name : String} (finds : setting.Finds (Resolve.load name) loaded) :
    setting.loader.space.Identifies loaded.handle := by
  have found := finds.inSpace
  cases ClassSpace.name_of_find found
  exact ⟨loaded, found, rfl⟩

/-! ### Types -/

/-- A type of a plan refers to a class of the class space. -/
theorem runtimeType_identifies {declared : ValueType}
    (finds : setting.Finds (Resolve.runtimeType declared) type) :
    ∀ handle ∈ type.handles, setting.loader.space.Identifies handle := by
  -- The induction is on the array levels, which leave the class of the elements.
  induction declared generalizing type with
  | void | primitive =>
    cases eq_of_pure finds
    exact List.forall_mem_nil _
  | object className =>
    obtain ⟨loaded, first, last⟩ := finds.of_bind (Resolve.load_plain _)
    cases eq_of_pure last
    exact List.forall_mem_singleton.mpr first.identifies
  | array component ih =>
    obtain ⟨element, first, rfl⟩ := finds.component
    show ∀ handle ∈ element.handles, _
    exact ih first

/-- Array levels add no class. -/
theorem handles_repeat (count : Nat) (type : RuntimeType) :
    (count.repeat RuntimeType.array type).handles = type.handles := by
  induction count with
  | zero => rfl
  | succ count ih => exact ih

/-- A type of a name refers to a class of the class space. -/
theorem typeNamed_identifies {name : String}
    (finds : setting.Finds (Resolve.typeNamed name) type) :
    ∀ handle ∈ type.handles, setting.loader.space.Identifies handle := by
  obtain ⟨element, first, last⟩ := finds.of_bind (Resolve.elementNamed_plain _)
  cases eq_of_pure last
  rw [handles_repeat]
  -- A name without brackets is a keyword, which has no class, or the name of a class.
  unfold Resolve.elementNamed at first
  split at first
  · cases eq_of_pure first
    exact List.forall_mem_nil _
  · split at first
    · cases eq_of_pure first
      exact List.forall_mem_nil _
    · obtain ⟨loaded, loads, last⟩ := first.of_bind (Resolve.load_plain _)
      cases eq_of_pure last
      exact List.forall_mem_singleton.mpr loads.identifies

/-! ### Members -/

/-- The superclasses of a class are classes of the class space like the class itself. -/
theorem chainFrom_identifies {seen : List String} {bound : Nat} {chain : List LoadedClass}
    (known : setting.loader.space.Identifies loaded.handle)
    (finds : setting.Finds (Resolve.chainFrom seen bound loaded) chain) :
    ∀ member ∈ chain, setting.loader.space.Identifies member.handle := by
  -- The induction is on the bound, and each superclass is loaded before the chain goes on.
  induction bound generalizing seen loaded chain with
  | zero =>
    cases eq_of_pure finds
    exact List.forall_mem_nil _
  | succ bound ih =>
    unfold Resolve.chainFrom at finds
    split at finds
    · cases eq_of_pure finds
      exact List.forall_mem_nil _
    · split at finds
      · cases eq_of_pure finds
        exact List.forall_mem_singleton.mpr known
      · obtain ⟨parent, first, rest⟩ := finds.of_bind (Resolve.load_plain _)
        obtain ⟨above, chained, last⟩ := rest.of_bind (Resolve.chainFrom_plain _ _ _)
        cases eq_of_pure last
        exact List.forall_mem_cons.mpr ⟨known, ih first.identifies chained⟩

/-- What is found on a class or one of its superclasses is found on a class of the class space. -/
theorem exists_on_chain {α : Type} {pick : LoadedClass → Option α} {chain : List LoadedClass}
    {found : α} (known : setting.loader.space.Identifies loaded.handle)
    (finds : setting.Finds (Resolve.superclassChain loaded) chain)
    (picked : chain.findSome? pick = some found) :
    ∃ declaring, setting.loader.space.Identifies declaring.handle ∧
      pick declaring = some found := by
  -- How far the chain is followed depends on the loader, but not what is on it.
  have walked : setting.Finds
      (Resolve.chainFrom [] setting.loader.space.definedNames.length loaded) chain := by
    obtain ⟨before, after, loads, ran⟩ := finds
    refine ⟨before, after, loads, ?_⟩
    rw [← Loader.space_of_loads loads]
    exact ran
  obtain ⟨declaring, inside, picked⟩ := List.exists_of_findSome?_eq_some picked
  exact ⟨declaring, chainFrom_identifies known walked declaring inside, picked⟩

/-- A constructor is declared by the class that it is looked for on. -/
theorem constructorOn_declaring {params : List String} {found : LoadedClass × ConstructorHandle}
    (finds : setting.Finds (Resolve.constructorOn loaded params) found) :
    found.2.declaring = loaded.handle := by
  obtain ⟨_, _, _, ran⟩ := finds
  cases declared : loaded.definition.constructor? params with
  | none =>
    simp only [Resolve.constructorOn, declared] at ran
    cases ran
  | some definition =>
    simp only [Resolve.constructorOn, declared] at ran
    cases ran
    rfl

/-- A constructor is declared by a class of the class space. -/
theorem constructor_identifies {method : MethodReference} {found : LoadedClass × ConstructorHandle}
    (finds : setting.Finds (Resolve.constructor method) found) :
    setting.loader.space.Identifies found.2.declaring := by
  obtain ⟨loaded, first, rest⟩ := finds.of_bind (Resolve.load_plain _)
  obtain ⟨_, _, last⟩ := rest.of_bind (Resolve.signature_plain _)
  rw [constructorOn_declaring last]
  exact first.identifies

/-- A constructor without parameters is declared by a class of the class space. -/
theorem defaultConstructor_identifies {className : String}
    {found : LoadedClass × ConstructorHandle}
    (finds : setting.Finds (Resolve.defaultConstructor className) found) :
    setting.loader.space.Identifies found.2.declaring := by
  obtain ⟨loaded, first, last⟩ := finds.of_bind (Resolve.load_plain _)
  rw [constructorOn_declaring last]
  exact first.identifies

/-- A method is declared by a class of the class space, however far up it is found. -/
theorem methodNamed_identifies {className name : String} {params : List String}
    {found : MethodHandle}
    (finds : setting.Finds (Resolve.methodNamed className name params) found) :
    setting.loader.space.Identifies found.declaring := by
  obtain ⟨loaded, first, rest⟩ := finds.of_bind (Resolve.load_plain _)
  obtain ⟨chain, chained, last⟩ := rest.of_bind (Resolve.superclassChain_plain _)
  cases searched : chain.findSome? (Resolve.methodOn? name params) with
  | none =>
    simp only [searched] at last
    obtain ⟨_, _, _, ⟨⟩⟩ := last
  | some handle =>
    simp only [searched] at last
    cases eq_of_pure last
    obtain ⟨declaring, identified, picked⟩ := exists_on_chain first.identifies chained searched
    obtain ⟨_, _, rfl⟩ := Option.map_eq_some_iff.mp picked
    exact identified

/-- A referenced method is declared by a class of the class space. -/
theorem method_identifies {method : MethodReference} {found : MethodHandle}
    (finds : setting.Finds (Resolve.method method) found) :
    setting.loader.space.Identifies found.declaring := by
  obtain ⟨_, _, last⟩ := finds.of_bind (Resolve.signature_plain _)
  exact methodNamed_identifies last

/-- A field is declared by a class of the class space, however far up it is found. -/
theorem field_identifies {field : FieldReference} {found : FieldHandle}
    (finds : setting.Finds (Resolve.field field) found) :
    setting.loader.space.Identifies found.declaring := by
  obtain ⟨start, first, rest⟩ := finds.of_bind (Resolve.load_plain _)
  obtain ⟨chain, chained, last⟩ := rest.of_bind (Resolve.superclassChain_plain _)
  cases searched : chain.findSome? (Resolve.fieldOn? field.name) with
  | none =>
    simp only [searched] at last
    obtain ⟨_, _, _, ⟨⟩⟩ := last
  | some handle =>
    simp only [searched] at last
    cases eq_of_pure last
    obtain ⟨declaring, identified, picked⟩ := exists_on_chain first.identifies chained searched
    obtain ⟨_, _, rfl⟩ := Option.map_eq_some_iff.mp picked
    exact identified

/-- An enum constant is one of the class that it is looked for on. -/
theorem enumConstant_handles {name : String} {constant : Constant}
    (finds : setting.Finds (Resolve.enumConstant loaded name) constant) :
    constant.handles = [loaded.handle] := by
  obtain ⟨_, _, _, ran⟩ := finds
  cases declared : loaded.definition.enumConstant? name with
  | none =>
    simp only [Resolve.enumConstant, declared] at ran
    cases ran
  | some found =>
    simp only [Resolve.enumConstant, declared] at ran
    cases ran
    rfl

/-- A helper routine is one of a class of the class space. -/
theorem helper_identifies {helperClass name : String} {routine : HelperRoutine}
    (finds : setting.Finds (Resolve.helper helperClass name) routine) :
    setting.loader.space.Identifies routine.declaring := by
  obtain ⟨loaded, first, _, _, _, ran⟩ := finds.of_bind (Resolve.load_plain _)
  split at ran <;> cases ran
  exact first.identifies

end Setting.Finds

/-! ### Operands -/

/-- What stands for a plan refers to no class: only literals and texts are constants. -/
theorem CompiledTest.Denotes.handles {built : CompiledTest} {plan : Plan} {operand : Operand}
    (denotes : built.Denotes plan operand) : operand.handles = [] := by
  cases denotes with
  | var => rfl
  | constant found =>
    obtain ⟨name, kind⟩ := plan
    cases kind with
    | primitive value => cases value <;> cases found <;> rfl
    | text value =>
      cases found
      rfl
    | actions | reflection | testCall | mock | unknown => cases found

/-- What stands for plans refers to no class. -/
theorem CompiledTest.DenoteAll.handles {built : CompiledTest} {plans : List Plan}
    {operands : List Operand} (denote : built.DenoteAll plans operands) :
    operands.flatMap Operand.handles = [] := by
  induction denote with
  | nil => rfl
  | cons first _ ih => rw [List.flatMap_cons, first.handles, ih, List.append_nil]

/-- A field is located by the class object of a class of the class space. -/
theorem Setting.Locates.identifies {setting : Setting Loader} {field : FieldReference}
    {locator : List Operand} (locates : setting.Locates field locator) :
    ∀ handle ∈ locator.flatMap Operand.handles, setting.loader.space.Identifies handle := by
  obtain ⟨loaded, finds, rfl⟩ := locates
  exact List.forall_mem_singleton.mpr finds.identifies

/-- What a new array is made from refers to no class besides that of its length. -/
theorem Setting.arrayArguments_handles {ρ : Type} [ClassLoading ρ] (setting : Setting ρ)
    (type : RuntimeType) (length : Operand) :
    (setting.arrayArguments type length).flatMap Operand.handles = length.handles := by
  simp only [Setting.arrayArguments]
  split <;> simp

/-! ### Statements -/

/-- A statement that refers to classes of the class space, and whose variable does as well. -/
structure Setting.Identified (setting : Setting Loader) (built : CompiledTest)
    (statement : Statement) : Prop where
  named : ∀ handle ∈ statement.handles, setting.loader.space.Identifies handle
  typed : ∀ var, statement.defines = some var → ∃ type, built.test.typeOf? var = some type ∧
    ∀ handle ∈ type.handles, setting.loader.space.Identifies handle

namespace Setting

variable {setting : Setting Loader} {built : CompiledTest} {statement : Statement}

/-- The statement of a call refers to the class that declares its member. -/
theorem Calls.identified {method : MethodReference} {callee : Option Operand}
    {args : List Operand} {target : Option String}
    (calls : setting.Calls built method callee args target statement)
    (received : method.isConstructor = false → callee.toList.flatMap Operand.handles = [])
    (supplied : args.flatMap Operand.handles = []) : setting.Identified built statement := by
  cases calls with
  | @constructor loaded _ _ _ finds receives =>
    refine ⟨?_, ?_⟩
    · simpa [Statement.handles, supplied] using finds.constructor_identifies
    · intro var defines
      cases receives with
      | nothing => cases defines
      | owner owns =>
        cases defines
        exact ⟨_, owns.typed, finds.constructor.runtimeType_identifies⟩
  | method isMethod finds returns receives =>
    refine ⟨?_, ?_⟩
    · simpa [Statement.handles, supplied, received isMethod] using finds.method_identifies
    · intro var defines
      cases receives with
      | nothing => cases defines
      | owner owns =>
        cases defines
        exact ⟨_, owns.typed, (returns rfl).1.runtimeType_identifies⟩

/-- The statement of a call on what stands for plans refers to classes of the class space. -/
theorem Invokes.identified {method : MethodReference} {receiver : Option Plan}
    {args : List Plan} {target : Option String}
    (invokes : setting.Invokes built method receiver args target statement) :
    setting.Identified built statement := by
  obtain ⟨received, supplied, calls⟩ := invokes
  exact calls.identified (fun isMethod => (received isMethod).handles) supplied.handles

/-- A constant that refers to classes of the class space may be given to a plan. -/
theorem Identified.of_owns {owner : String} {type : RuntimeType} {result : Var}
    (named : ∀ handle ∈ statement.handles, setting.loader.space.Identifies handle)
    (defines : statement.defines = some result) (owns : built.Owns owner type result)
    (known : ∀ handle ∈ type.handles, setting.loader.space.Identifies handle) :
    setting.Identified built statement where
  named := named
  typed var gives := by
    cases defines.symm.trans gives
    exact ⟨type, owns.typed, known⟩

/-- A statement that gives no value only has to refer to classes of the class space. -/
theorem Identified.of_named
    (named : ∀ handle ∈ statement.handles, setting.loader.space.Identifies handle)
    (defines : statement.defines = none) : setting.Identified built statement where
  named := named
  typed var gives := by
    rw [defines] at gives
    cases gives

/-- The statement of a literal or text refers to classes of the class space. -/
theorem PrescribesLeaf.identified {plan : Plan} {position : Nat}
    (prescribed : setting.PrescribesLeaf built plan position)
    (there : built.At position statement) : setting.Identified built statement := by
  cases prescribed with
  | @literal value constant type _ kind found known owns here =>
    cases here.symm.trans there
    obtain ⟨primitive, _, rfl⟩ := Option.map_eq_some_iff.mp known
    -- Neither a literal nor its type has a class.
    have denotes : built.Denotes plan (.constant constant) :=
      .constant (by rw [Plan.constant?, kind]; exact found)
    refine .of_owns (fun handle member => ?_) rfl owns (List.forall_mem_nil _)
    rw [show (Statement.constant constant _).handles = [] from denotes.handles] at member
    cases member
  | text _ finds owns here =>
    cases here.symm.trans there
    exact .of_owns (List.forall_mem_nil _) rfl owns finds.typeNamed_identifies
  | null _ finds owns here =>
    cases here.symm.trans there
    exact .of_owns (List.forall_mem_nil _) rfl owns finds.typeNamed_identifies

/-- A null that is made for the next statement is of a class of the class space. -/
theorem NullAt.identified {position : Nat} {var : Var} (null : setting.NullAt built position var)
    (there : built.At position statement) : setting.Identified built statement := by
  obtain ⟨here, type, finds, typed⟩ := null
  cases here.symm.trans there
  refine ⟨List.forall_mem_nil _, fun _ defines => ?_⟩
  cases defines
  exact ⟨type, typed, finds.typeNamed_identifies⟩

/-- The statements of a direct step refer to classes of the class space. -/
theorem Performs.identified {owner : String} {step : Action}
    (performs : setting.Performs built owner step statement) :
    setting.Identified built statement := by
  cases performs with
  | constructorCall invokes | externalConstructorCall invokes | externalMethodCall invokes
  | staticMethodCall invokes => exact invokes.identified
  | methodCall _ supplied calls => exact calls.identified (fun _ => rfl) supplied.handles
  | arrayWrite _ _ denotes | initialElement _ _ denotes =>
    refine .of_named (fun handle member => ?_) rfl
    simp [Statement.handles, AssignTarget.handles, denotes.handles] at member
  | defaultConstructorCall finds owns =>
    refine .of_owns ?_ rfl owns finds.defaultConstructor.runtimeType_identifies
    simpa [Statement.handles] using finds.defaultConstructor_identifies
  | enumValueCreation loads finds owns =>
    have known : ∀ handle ∈ [_], setting.loader.space.Identifies handle :=
      List.forall_mem_singleton.mpr loads.identifies
    refine .of_owns ?_ rfl owns known
    rw [← finds.enumConstant_handles] at known
    exact known
  | fieldGetter finds typed denotes owns =>
    refine .of_owns ?_ rfl owns typed.runtimeType_identifies
    simpa [Statement.handles, denotes.handles] using finds.field_identifies
  | staticFieldGetter finds typed owns =>
    refine .of_owns ?_ rfl owns typed.runtimeType_identifies
    simpa [Statement.handles] using finds.field_identifies
  | fieldSetter finds _ denotes | staticFieldSetter finds denotes =>
    refine .of_named ?_ rfl
    simpa [Statement.handles, AssignTarget.handles, denotes.handles] using finds.field_identifies
  | newArray finds _ _ owns | newArrayWithInitializer finds _ owns =>
    exact .of_owns (List.forall_mem_nil _) rfl owns finds.runtimeType_identifies
  | classConstantGetter finds value owns =>
    exact .of_owns value.runtimeType_identifies rfl owns finds.typeNamed_identifies
  | allocate denotes finds typed declared =>
    -- The array has no plan, but its type is found like that of a variable of a plan.
    refine ⟨?_, fun _ defines => ?_⟩
    · simpa [Statement.handles, denotes.handles] using
        finds.methodNamed_identifies
    · cases defines
      exact ⟨_, declared, typed.typeNamed_identifies⟩
  | arrayClassConstantGetter finds typed owns =>
    refine .of_owns ?_ rfl owns typed.typeNamed_identifies
    simpa [Statement.handles] using finds.methodNamed_identifies

/-- The helper call of a reflective step refers to classes of the class space. -/
theorem PerformsReflective.identified {owner : String} {position : Nat} {step : ReflectiveAction}
    (performs : setting.PerformsReflective built owner position step statement) :
    setting.Identified built statement := by
  cases performs with
  | newInstance typed finds owns =>
    refine .of_owns ?_ rfl owns typed.runtimeType_identifies
    simpa [Statement.handles] using finds.helper_identifies
  | newArray typed _ denotes finds owns =>
    refine .of_owns ?_ rfl owns typed.runtimeType_identifies
    simpa [Statement.handles, arrayArguments_handles, denotes.handles] using
      finds.helper_identifies
  | arrayWrite _ index value finds =>
    obtain ⟨_, _, finds⟩ := finds
    refine .of_named ?_ rfl
    simpa [Statement.handles, index.handles, value.handles] using
      finds.helper_identifies
  | arrayRead array index typed finds owns =>
    refine .of_owns ?_ rfl owns typed.runtimeType_identifies
    simpa [Statement.handles, array.handles, index.handles] using finds.helper_identifies
  | setField _ value finds locates | setStaticField _ _ value finds locates =>
    obtain ⟨_, _, finds⟩ := finds
    refine .of_named (List.forall_mem_cons.mpr ⟨finds.helper_identifies, ?_⟩) rfl
    simpa only [List.cons_append, List.flatMap_cons, List.flatMap_append, List.flatMap_nil,
      Operand.handles_var, value.handles, List.nil_append, List.append_nil] using locates.identifies
  | getField denotes typed finds locates owns =>
    refine .of_owns (List.forall_mem_cons.mpr ⟨finds.helper_identifies, ?_⟩) rfl owns
      typed.runtimeType_identifies
    simpa only [List.flatMap_cons, denotes.handles, List.nil_append] using locates.identifies
  | getStaticField _ _ typed finds locates owns =>
    exact .of_owns (List.forall_mem_cons.mpr ⟨finds.helper_identifies, locates.identifies⟩) rfl
      owns typed.runtimeType_identifies

/-- Whatever a statement stands for, it refers to classes of the class space. -/
theorem Wrote.identified {position : Nat} {author : Author}
    (wrote : setting.Wrote built position author) (there : built.At position statement) :
    setting.Identified built statement := by
  cases wrote with
  | direct _ here performs =>
    cases here.symm.trans there
    exact performs.identified
  | reflective _ here performs =>
    cases here.symm.trans there
    exact performs.identified
  | receiver _ isStatic _ performs =>
    -- What stands here is the null of the access that comes next.
    cases performs with
    | setStaticField after null | getStaticField after null =>
      cases after
      exact null.identified there
    | _ => cases isStatic
  | leaf _ prescribed => exact prescribed.identified there
  | call invokes here =>
    cases here.symm.trans there
    exact invokes.identified

end Setting

/-! ### Whole tests -/

namespace Sound

section

variable {ρ : Type} [ClassLoading ρ] {setting : Setting ρ} {call : TestCall}
  {session : Compilation ρ}

/-- In a sound compilation that is running every variable is defined by a statement. -/
theorem exists_definer (sound : Sound setting call session) (running : session.terminated = false)
    {var : Var} {type : RuntimeType} (typed : session.test.typeOf? var = some type) :
    ∃ position statement, session.compiled.At position statement ∧
      statement.defines = some var := by
  obtain ⟨known, found, rfl⟩ := Option.map_eq_some_iff.mp typed
  have isSome := (sound.orderly.complete running).defined var known found
  obtain ⟨position, defined⟩ := Option.isSome_iff_exists.mp isSome
  obtain ⟨statement, there, defines⟩ := (sound.orderly.coherent.definedAt_iff var position).mp
    (Option.bind_eq_some_iff.mpr ⟨known, found, defined⟩)
  exact ⟨position, statement, there, defines⟩

end

/-- In a sound compilation that is running all identities are those of the class space. -/
theorem identifies {setting : Setting Loader} {call : TestCall} {session : Session}
    (sound : Sound setting call session) (running : session.terminated = false) :
    ∀ handle ∈ session.test.handles, setting.loader.space.Identifies handle := by
  have identified : ∀ {position statement}, session.compiled.At position statement →
      setting.Identified session.compiled statement := fun there => by
    obtain ⟨author, wrote⟩ := sound.exists_author there
    exact wrote.wrote.identified there
  intro handle member
  rcases List.mem_append.mp member with member | member
  · -- A statement defines the variable, and says of which type it is.
    obtain ⟨known, declared, member⟩ := List.mem_flatMap.mp member
    obtain ⟨index, found⟩ := List.mem_iff_getElem?.mp declared
    have same : session.test.typeOf? ⟨index⟩ = some known.type :=
      Option.map_eq_some_iff.mpr ⟨known, found, rfl⟩
    obtain ⟨_, _, there, defines⟩ := sound.exists_definer running same
    obtain ⟨type, typed, identifies⟩ := (identified there).typed ⟨index⟩ defines
    cases same.symm.trans typed
    exact identifies handle member
  · obtain ⟨statement, inside, member⟩ := List.mem_flatMap.mp member
    obtain ⟨position, there⟩ := List.mem_iff_getElem?.mp inside
    exact (identified there).named handle member

end Sound

/-- A test that is compiled is complete, and has been sound when its call was appended. -/
theorem Lower.compileTest_called {ρ : Type} [ClassLoading ρ] {sharing : Sharing}
    {config : CompilerConfig} {method : MethodReference} {parameters : Parameters} {loader : ρ}
    {test : CompiledTest} {after : Compilation ρ}
    (compiled : compileTest sharing config method parameters { loader } = .ok test after) :
    ∃ called : Compilation ρ, after = { called with terminated := true } ∧
      test = called.compiled ∧ called.terminated = false ∧
      Sound ⟨config, loader, parameters.roots⟩ (parameters.testCall method) called := by
  obtain ⟨rfl, prepared, prepares, calls⟩ := compileTest_ok compiled
  obtain ⟨_, called, invoked, ⟨⟩⟩ := bind_eq_ok_iff.mp calls
  have roots : Writes ⟨config, loader, parameters.roots⟩ (parameters.testCall method)
      (fun _ => True) (compileParameters config parameters) fun _ _ => True :=
    forM_compile_writes parameters.roots fun _ => .root
  -- The receiver and the arguments of the call are roots.
  have call : Writes ⟨config, loader, parameters.roots⟩ (parameters.testCall method)
      (fun _ => True) (invoke method (receiverOperand config parameters.receiver)
        (operands config parameters.arguments) none) fun _ _ => True :=
    invokes_writes parameters.receiver
      (fun _ => receiverOperand_writes parameters.receiver fun _ member =>
        .root (List.mem_append_left _ (List.mem_append_left _ member)))
      (operands_writes parameters.arguments fun _ member =>
        .root (List.mem_append_left _ (List.mem_append_right _ member)))
      nofun fun invokes there => .testCall (.inl rfl) invokes there
  have sound := (roots.written (.initial _) (fun _ _ => trivial) prepares).sound
  exact ⟨called, rfl, rfl, invoke_running invoked,
    (call.written sound (fun _ _ => trivial) invoked).sound⟩

/--
In a test that is compiled, a name stands for one class: class identities of one name are of one
layer, wherever they occur. It is the layer of the class that any loader of the class space gives
for the name, such as the loader that the test has been compiled with, before or afterwards.
-/
theorem compileTest_identities (sharing : Sharing) (loader : Loader) (config : CompilerConfig)
    (method : MethodReference) (parameters : Parameters) {test : CompiledTest} {after : Session}
    (compiled : Lower.compileTest sharing config method parameters { loader } = .ok test after) :
    after.loader.space = loader.space ∧
      (∀ handle ∈ test.test.handles, ∀ other ∈ test.test.handles,
        handle.name = other.name → handle.origin = other.origin) ∧
      ∀ handle ∈ test.test.handles, ∀ asked : Loader, asked.space = loader.space →
        ∃ loaded later, Loader.load handle.name asked = .ok loaded later ∧
          loaded.handle = handle := by
  obtain ⟨called, rfl, rfl, running, sound⟩ := Lower.compileTest_called compiled
  have identifies : ∀ handle ∈ called.test.handles, loader.space.Identifies handle :=
    sound.identifies running
  exact ⟨Loader.space_of_loads sound.loads,
    fun handle member other member' => (identifies handle member).origin_eq
      (identifies other member'),
    fun handle member asked => (identifies handle member).exists_load⟩

/-- Points that several layers define are those of the first layer throughout a test. -/
theorem compileTest_identities_shadowed :
    ∃ (test : CompiledTest) (after : Session),
      Lower.compileTest .none {} Demo.pointDistance
          { receiver := some (Demo.pointAt "p" 1 2), arguments := [Demo.hidingPoint "q" 7] }
          { loader := Demo.loader (({} : HelperLibrary).classDefinition :: Demo.classes) }
        = .ok test after ∧
      ⟨"demo.Point", .instrumented⟩ ∈ test.test.handles ∧
      ∀ handle ∈ test.test.handles, handle.name = "demo.Point" →
        handle.origin = .instrumented := by
  obtain ⟨test, after, ran, found⟩ : ∃ test after, Lower.compileTest .none {} Demo.pointDistance
      { receiver := some (Demo.pointAt "p" 1 2), arguments := [Demo.hidingPoint "q" 7] }
      ({ loader := Demo.loader (({} : HelperLibrary).classDefinition :: Demo.classes) } : Session)
        = .ok test after ∧
      decide (⟨"demo.Point", .instrumented⟩ ∈ test.test.handles) = true :=
    exists_ok_of_any_run' (by decide +kernel)
  have there := of_decide_eq_true found
  have one := (compileTest_identities _ _ _ _ _ ran).2.1
  exact ⟨test, after, ran, there, fun handle member named => one handle member _ there named⟩

end TestPlan
