import TestPlan.Proofs.Lowering.Identities

/-!
How members are accessed: a statement calls a member on an object or not, and with so many
arguments, just as the step says that has written it. So it fits its member exactly if the step
does.
-/

namespace TestPlan

/-! ### Members and statements -/

/-- Whether a constructor takes a number of arguments. -/
def ConstructorHandle.takes (handle : ConstructorHandle) (args : Nat) : Bool :=
  args == handle.params.length

/-- Whether a method is called as it is declared: on an object unless it is static. -/
def MethodHandle.takes (handle : MethodHandle) (onObject : Bool) (args : Nat) : Bool :=
  onObject == !handle.isStatic && args == handle.params.length

/-- Whether a field is accessed as it is declared: on an object unless it is static. -/
def FieldHandle.takes (handle : FieldHandle) (onObject : Bool) : Bool :=
  onObject == !handle.isStatic

/-- Whether a statement fits the member that it accesses, if it accesses one. -/
def Statement.fits? : Statement → Option Bool
  | .constructor handle args _ => some (handle.takes args.length)
  | .method handle callee args _ => some (handle.takes callee.isSome args.length)
  | .fieldRead field owner _ => some (field.takes owner.isSome)
  | .assignment (.field field owner) _ => some (field.takes owner.isSome)
  | .assignment (.element _ _) _
  | .reflection _ _ _
  | .constant _ _
  | .null _
  | .newArray _ _ => none

/-! ### Steps -/

/-- How a step accesses a member that is looked for on the classes. -/
inductive Access (ρ : Type) where
  | constructor (lookup : Lookup ρ (LoadedClass × ConstructorHandle)) (args : Nat)
  | method (lookup : Lookup ρ MethodHandle) (onObject : Bool) (args : Nat)
  | field (lookup : Lookup ρ FieldHandle) (onObject : Bool)

section

variable {ρ : Type} [ClassLoading ρ]

/-- Whether an access fits the member that a loader gives for it, if it gives one. -/
def Access.fits? (loader : ρ) : Access ρ → Option Bool
  | .constructor lookup args => (lookup.run' loader).map fun (_, handle) => handle.takes args
  | .method lookup onObject args => (lookup.run' loader).map (·.takes onObject args)
  | .field lookup onObject => (lookup.run' loader).map (·.takes onObject)

/-- A statement makes an access: it has the member that is found, and what the access says. -/
inductive Access.MadeBy (loader : ρ) : Access ρ → Statement → Prop
  | constructor {lookup : Lookup ρ (LoadedClass × ConstructorHandle)} {count : Nat}
      {loaded : LoadedClass} {handle : ConstructorHandle} {args : List Operand}
      {result : Option Var} :
      lookup.run' loader = some (loaded, handle) → args.length = count →
        MadeBy loader (.constructor lookup count) (.constructor handle args result)
  | method {lookup : Lookup ρ MethodHandle} {onObject : Bool} {count : Nat}
      {handle : MethodHandle} {callee : Option Operand} {args : List Operand}
      {result : Option Var} :
      lookup.run' loader = some handle → callee.isSome = onObject → args.length = count →
        MadeBy loader (.method lookup onObject count) (.method handle callee args result)
  | fieldRead {lookup : Lookup ρ FieldHandle} {onObject : Bool} {handle : FieldHandle}
      {owner : Option Operand} {result : Var} :
      lookup.run' loader = some handle → owner.isSome = onObject →
        MadeBy loader (.field lookup onObject) (.fieldRead handle owner result)
  | fieldWrite {lookup : Lookup ρ FieldHandle} {onObject : Bool} {handle : FieldHandle}
      {owner : Option Var} {value : Operand} :
      lookup.run' loader = some handle → owner.isSome = onObject →
        MadeBy loader (.field lookup onObject) (.assignment (.field handle owner) value)

omit [ClassLoading ρ] in
/-- A statement fits the member exactly if the access does that it makes. -/
theorem Access.MadeBy.fits? {loader : ρ} {access : Access ρ} {statement : Statement}
    (made : access.MadeBy loader statement) : access.fits? loader = statement.fits? := by
  cases made with
  | constructor found supplied =>
    rw [Access.fits?, found, ← supplied]
    rfl
  | method found object supplied =>
    rw [Access.fits?, found, ← object, ← supplied]
    rfl
  | fieldRead found object | fieldWrite found object =>
    rw [Access.fits?, found, ← object]
    rfl

/-- The call of a method, or of a constructor, which takes no object. -/
def MethodReference.access (method : MethodReference) (onObject : Bool) (args : Nat) : Access ρ :=
  if method.isConstructor then .constructor (Resolve.constructor method) args
  else .method (Resolve.method method) onObject args

/-- How a direct step accesses members. -/
def Action.accesses : Action → List (Access ρ)
  | .constructorCall method args
  | .externalConstructorCall method args
  | .staticMethodCall method args => [method.access false args.length]
  | .methodCall method args => [method.access true args.length]
  | .externalMethodCall method receiver args => [method.access receiver.isSome args.length]
  | .defaultConstructorCall className => [.constructor (Resolve.defaultConstructor className) 0]
  | .fieldGetter _ field
  | .fieldSetter field _ => [.field (Resolve.field field) true]
  | .staticFieldGetter field
  | .staticFieldSetter field _ => [.field (Resolve.field field) false]
  | .arrayClassConstantGetter _ =>
    [.method (Resolve.methodNamed reflectArrayClass "newInstance" [classClass, "int"]) false 2,
      .method (Resolve.methodNamed objectClass "getClass" []) true 0]
  | .arrayWrite _ _
  | .enumValueCreation _ _
  | .innerClassConstructorCall _ _ _
  | .newArray _ _
  | .newArrayWithInitializer _ _
  | .classConstantGetter _ => []

/-- How the call under test accesses its method. -/
def TestCall.access : TestCall → Access ρ
  | .mk method receiver args => method.access receiver.isSome args.length

/-- The accesses that an author makes; the helpers are no members that a plan refers to. -/
def Author.accesses : Author → List (Access ρ)
  | .direct _ step => step.accesses
  | .call asked => [asked.access]
  | .reflective _ _
  | .leaf _ => []

/-- The accesses that the steps of needed plans make, and the call under test. -/
def Setting.Accesses (setting : Setting ρ) (call : TestCall) (access : Access ρ) : Prop :=
  (∃ plan step, setting.HasAction plan step ∧ access ∈ step.accesses) ∨
    ∃ asked, setting.Asks call asked ∧ access = asked.access

end

/-! ### Statements of steps -/

namespace CompiledTest.DenoteAll

variable {built : CompiledTest}

/-- As many operands denote plans as there are plans. -/
theorem length_eq {plans : List Plan} {operands : List Operand}
    (denote : built.DenoteAll plans operands) : operands.length = plans.length :=
  (List.Forall₂.length_eq denote).symm

/-- An operand denotes a receiver just when there is one. -/
theorem isSome_eq {receiver : Option Plan} {callee : Option Operand}
    (denotes : built.DenoteAll receiver.toList callee.toList) :
    callee.isSome = receiver.isSome := by
  cases receiver <;> cases callee <;> first | rfl | cases denotes

end CompiledTest.DenoteAll

namespace Setting

variable {setting : Setting Loader} {built : CompiledTest} {statement : Statement}

/-- What is found some time while a test is compiled is what the loader gives at first. -/
theorem Finds.run' {α : Type} {lookup : Resolve α} {found : α}
    (uniform : Uniform (fun loader loader' : Loader => loader'.space = loader.space) lookup)
    (finds : setting.Finds lookup found) : lookup.run' setting.loader = some found := by
  obtain ⟨after, ran⟩ := finds.initially uniform
  exact run'_of_ok ran

/-- The statement of a call makes the access that the call is. -/
theorem Calls.madeBy {method : MethodReference} {callee : Option Operand} {operands : List Operand}
    {owner : Option String} (calls : setting.Calls built method callee operands owner statement)
    {onObject : Bool} {args : Nat}
    (received : method.isConstructor = false → callee.isSome = onObject)
    (supplied : operands.length = args) :
    (method.access onObject args).MadeBy setting.loader statement := by
  -- The reference alone decides which of the two is looked for, whatever stands before the call.
  cases calls with
  | constructor isConstructor finds =>
    rw [MethodReference.access, if_pos isConstructor]
    exact .constructor (finds.run' (Resolve.constructor_uniform Loader.sameClasses _)) supplied
  | method isMethod finds =>
    rw [MethodReference.access, if_neg (by simp [isMethod])]
    exact .method (finds.run' (Resolve.method_uniform Loader.sameClasses _)) (received isMethod)
      supplied

/-- The statement of a call on what stands for plans makes the access that the call is. -/
theorem Invokes.madeBy {method : MethodReference} {receiver : Option Plan} {args : List Plan}
    {target : Option String}
    (invokes : setting.Invokes built method receiver args target statement) :
    (method.access receiver.isSome args.length).MadeBy setting.loader statement := by
  obtain ⟨received, supplied, calls⟩ := invokes
  exact calls.madeBy (fun isMethod => (received isMethod).isSome_eq) supplied.length_eq

/-- A field that is found is what the loader gives at first. -/
theorem Finds.field {field : FieldReference} {handle : FieldHandle}
    (finds : setting.Finds (Resolve.field field) handle) :
    (Resolve.field field).run' setting.loader = some handle :=
  finds.run' (Resolve.field_uniform Loader.sameClasses _)

/-- A method that is found by its name is what the loader gives at first. -/
theorem Finds.methodNamed {className name : String} {params : List String} {handle : MethodHandle}
    (finds : setting.Finds (Resolve.methodNamed className name params) handle) :
    (Resolve.methodNamed className name params).run' setting.loader = some handle :=
  finds.run' (Resolve.methodNamed_uniform Loader.sameClasses _ _ _)

/-- A statement of a direct step makes one of the accesses of the step, if it makes any. -/
theorem Performs.exists_madeBy {owner : String} {step : Action}
    (performs : setting.Performs built owner step statement)
    (accesses : statement.fits?.isSome = true) :
    ∃ access ∈ step.accesses, access.MadeBy setting.loader statement := by
  -- A step makes one access, but that to the class of an array makes two, one for each statement.
  cases performs with
  | constructorCall invokes | externalConstructorCall invokes | externalMethodCall invokes
  | staticMethodCall invokes => exact ⟨_, List.mem_singleton.mpr rfl, invokes.madeBy⟩
  | methodCall _ supplied calls =>
    exact ⟨_, List.mem_singleton.mpr rfl, calls.madeBy (fun _ => rfl) supplied.length_eq⟩
  | defaultConstructorCall finds =>
    have found := finds.run' (Resolve.defaultConstructor_uniform Loader.sameClasses _)
    exact ⟨_, List.mem_singleton.mpr rfl, .constructor found rfl⟩
  | fieldGetter finds | staticFieldGetter finds =>
    exact ⟨_, List.mem_singleton.mpr rfl, .fieldRead finds.field rfl⟩
  | fieldSetter finds | staticFieldSetter finds =>
    exact ⟨_, List.mem_singleton.mpr rfl, .fieldWrite finds.field rfl⟩
  | allocate _ finds =>
    exact ⟨_, List.mem_pair.mpr (.inl rfl), .method finds.methodNamed rfl rfl⟩
  | arrayClassConstantGetter finds =>
    exact ⟨_, List.mem_pair.mpr (.inr rfl), .method finds.methodNamed rfl rfl⟩
  | arrayWrite | initialElement | enumValueCreation | newArray | newArrayWithInitializer
  | classConstantGetter => cases accesses

variable {call : TestCall} {position : Nat} {author : Author}

/-- What accesses a member makes an access of the step, or call, that has written it. -/
theorem Wrote.exists_madeBy (wrote : setting.Wrote built position author)
    (there : built.At position statement) (accesses : statement.fits?.isSome = true) :
    ∃ access ∈ author.accesses, access.MadeBy setting.loader statement := by
  cases wrote with
  | direct _ here performs =>
    cases here.symm.trans there
    exact performs.exists_madeBy accesses
  | reflective _ here performs =>
    -- The helpers are no members that a plan refers to.
    cases here.symm.trans there
    obtain ⟨_, _, _, rfl⟩ := performs.exists_reflection
    cases accesses
  | receiver _ isStatic _ performs =>
    -- What stands here is the null that the helper reads next.
    obtain ⟨_, _, _, _, _, null⟩ := performs.reads_null isStatic
    cases null.symm.trans there
    cases accesses
  | leaf _ prescribed =>
    -- A constant or null accesses no member.
    obtain ⟨_, _, _, ⟨_, rfl⟩ | rfl⟩ := prescribed.makes there <;> cases accesses
  | call invokes here =>
    cases here.symm.trans there
    exact ⟨_, List.mem_singleton.mpr rfl, invokes.madeBy⟩

/-- What an author accesses is accessed by a step of a needed plan, or by a call asked for. -/
theorem WroteFor.accesses (wrote : setting.WroteFor call built position author)
    {access : Access Loader} (member : access ∈ author.accesses) :
    setting.Accesses call access := by
  obtain ⟨wrote, asks⟩ := wrote
  cases wrote with
  | direct has => exact .inl ⟨_, _, has, member⟩
  | call => exact .inr ⟨_, asks _ rfl, List.mem_singleton.mp member⟩
  | reflective | receiver | leaf => cases member

end Setting

/-! ### Whole tests -/

/--
In a test that is compiled, a statement that accesses a member makes an access of the step, or of
the call under test, that has written it: it has an object, and as many arguments, as the plan
says, and its member is what the class loader gives for the reference. So a statement fits its
member exactly if that access does, and all statements fit their members, with an object unless the
member is static and with an argument for each parameter, when all accesses do that the plans ask
for. All sources of classes are in memory.
-/
theorem compileTest_accesses (sharing : Sharing) (loader : Loader) (config : CompilerConfig)
    (method : MethodReference) (parameters : Parameters) {test : CompiledTest} {after : Session}
    (compiled : Lower.compileTest sharing config method parameters { loader } = .ok test after) :
    (∀ position statement, test.At position statement → statement.fits?.isSome = true →
      ∃ author, Setting.WroteFor ⟨config, loader, parameters.roots⟩ (parameters.testCall method)
        test position author ∧
      ∃ access ∈ author.accesses, access.MadeBy loader statement ∧
        access.fits? loader = statement.fits?) ∧
    ((∀ access, Setting.Accesses ⟨config, loader, parameters.roots⟩
        (parameters.testCall method) access → access.fits? loader ≠ some false) →
      ∀ statement ∈ test.test.statements, statement.fits? ≠ some false) := by
  obtain ⟨rfl, sound⟩ := Lower.compileTest_sound compiled
  have each : ∀ position statement, after.compiled.At position statement →
      statement.fits?.isSome = true → ∃ author,
        Setting.WroteFor ⟨config, loader, parameters.roots⟩ (parameters.testCall method)
          after.compiled position author ∧
        ∃ access ∈ author.accesses, access.MadeBy loader statement ∧
          access.fits? loader = statement.fits? := by
    intro position statement there accesses
    obtain ⟨author, wrote⟩ := sound.exists_author there
    obtain ⟨access, member, made⟩ := wrote.wrote.exists_madeBy there accesses
    exact ⟨author, wrote, access, member, made, made.fits?⟩
  refine ⟨each, ?_⟩
  -- A statement that does not fit makes an access that does not fit either.
  intro all statement member misfits
  obtain ⟨position, there⟩ := List.mem_iff_getElem?.mp member
  obtain ⟨author, wrote, access, asked, -, fits⟩ :=
    each position statement there (by simp [misfits])
  exact all access (wrote.accesses asked) (fits.trans misfits)

/-- Plans that give a constructor too few arguments, call a static method on an object, and read
a field without the object that it belongs to. -/
def Demo.misuses : List Plan :=
  [.mk "p" (.actions [.constructorCall pointConstructor [int "x" 1],
      .methodCall pointOf [int "x" 1, int "y" 2]]),
    .mk "q" (.actions [.staticFieldGetter pointX])]

/-- The accesses of a plan that makes a point fit their members, and so does a static call. -/
theorem Demo.fits?_pointAt (access : Access Loader)
    (asked : Setting.Accesses ⟨{}, Demo.loader [], [Demo.pointAt "p" 1 2]⟩
      (.mk Demo.settingsReset none []) access) : access.fits? (Demo.loader []) ≠ some false := by
  -- Only the point has steps; what it reads are literals.
  have steps : ∀ plan, Needed [Demo.pointAt "p" 1 2] plan →
      plan = Demo.pointAt "p" 1 2 ∨ plan.isLeaf = true := by
    intro plan needed
    induction needed with
    | root member => exact .inl (List.mem_singleton.mp member)
    | read _ member ih =>
      rcases ih with rfl | leaf
      · rcases List.mem_pair.mp member with rfl | rfl <;> exact .inr rfl
      · rw [Plan.reads_of_isLeaf leaf] at member
        cases member
  rcases asked with ⟨plan, step, ⟨needed, actions, kind, member⟩, accesses⟩ | ⟨call, asks, rfl⟩
  · rcases steps plan needed with rfl | leaf
    · cases kind
      cases List.mem_singleton.mp member
      cases List.mem_singleton.mp accesses
      decide +kernel
    · rw [Plan.isLeaf, kind] at leaf
      cases leaf
  · rcases asks with rfl | ⟨name, needed⟩
    · decide +kernel
    · rcases steps _ needed with same | leaf
      · cases same
      · cases leaf

/-- A statement that does not fit is there for a step that asks for such an access, and where all
accesses fit there is none. -/
theorem compileTest_accesses_misuses :
    (∃ (test : CompiledTest) (after : Session) (position : Nat) (statement : Statement)
        (author : Author),
      Lower.compileTest .none {} Demo.settingsReset { statics := Demo.misuses }
        { loader := Demo.loader [] } = .ok test after ∧
      test.At position statement ∧ statement.fits? = some false ∧
      Setting.WroteFor ⟨{}, Demo.loader [], Demo.misuses⟩ (.mk Demo.settingsReset none [])
        test position author ∧
      ∃ access ∈ author.accesses, access.MadeBy (Demo.loader []) statement ∧
        access.fits? (Demo.loader []) = some false) ∧
    ∃ (test : CompiledTest) (after : Session),
      Lower.compileTest .none {} Demo.settingsReset { statics := [Demo.pointAt "p" 1 2] }
        { loader := Demo.loader [] } = .ok test after ∧
      ∀ statement ∈ test.test.statements, statement.fits? ≠ some false := by
  constructor
  · obtain ⟨test, after, ran, misfit⟩ : ∃ test after, Lower.compileTest .none {} Demo.settingsReset
        { statics := Demo.misuses } ({ loader := Demo.loader [] } : Session) = .ok test after ∧
        (test.test.statements.any fun statement => statement.fits? == some false) = true :=
      exists_ok_of_any_run' (by decide +kernel)
    obtain ⟨statement, member, misfits⟩ := List.any_eq_true.mp misfit
    have misfits := beq_iff_eq.mp misfits
    obtain ⟨position, there⟩ := List.mem_iff_getElem?.mp member
    obtain ⟨author, wrote, access, asked, made, fits⟩ :=
      (compileTest_accesses _ _ _ _ _ ran).1 position statement there (by rw [misfits]; rfl)
    exact ⟨test, after, position, statement, author, ran, there, misfits, wrote, access, asked,
      made, fits.trans misfits⟩
  · obtain ⟨test, after, ran⟩ : ∃ test after, Lower.compileTest .none {} Demo.settingsReset
        { statics := [Demo.pointAt "p" 1 2] } ({ loader := Demo.loader [] } : Session)
          = .ok test after :=
      exists_ok_of_run' (by decide +kernel)
    exact ⟨test, after, ran, (compileTest_accesses _ _ _ _ _ ran).2 Demo.fits?_pointAt⟩

/-- A test that is compiled can call a constructor with too few arguments and a static method on
an object, and can read a field without the object that it belongs to. -/
theorem compileTest_accesses_unchecked :
    ∃ (test : CompiledTest) (after : Session),
      Lower.compileTest .none {} Demo.settingsReset { statics := Demo.misuses }
        { loader := Demo.loader [] } = .ok test after ∧
      (test.test.statements.filter fun statement => statement.fits? == some false).map
        Statement.kind = [.constructor, .method, .fieldRead] := by
  obtain ⟨test, after, ran, misfits⟩ : ∃ test after, Lower.compileTest .none {} Demo.settingsReset
      { statics := Demo.misuses } ({ loader := Demo.loader [] } : Session) = .ok test after ∧
      ((test.test.statements.filter fun statement => statement.fits? == some false).map
        Statement.kind == [.constructor, .method, .fieldRead]) = true :=
    exists_ok_of_any_run' (by decide +kernel)
  exact ⟨test, after, ran, beq_iff_eq.mp misfits⟩

end TestPlan
