import TestPlan.Proofs.Lowering.Recorded
import TestPlan.Proofs.Lowering.Success

/-!
Which names are entered as compiled: none that is being compiled or has a value, and after the call
under test none of a plan that has anything to append.
-/

namespace TestPlan

variable {ρ α β : Type}

/-! ### Complete tests take nothing more -/

/-- A plan that has no steps to carry out. -/
def Plan.Idle (plan : Plan) : Prop :=
  plan.kind = .actions [] ∨ plan.kind = .reflection []

/-- A lowering after which a complete test is still complete. -/
def StaysComplete (step : Lowering ρ α) : Prop :=
  ∀ session result after, step session = .ok result after → session.terminated = true →
    after.terminated = true

/-- A lowering that succeeds only while the test is running, since it appends something. -/
def Appends (step : Lowering ρ α) : Prop :=
  ∀ session result after, step session = .ok result after → session.terminated = false

namespace Appends

/-- What appends something at first appends something. -/
theorem first {step : Lowering ρ α} {next : α → Lowering ρ β} (appends : Appends step) :
    Appends (step >>= next) := by
  intro session _ _ ran
  obtain ⟨_, _, ran, -⟩ := bind_eq_ok_iff.mp ran
  exact appends session _ _ ran

/-- What appends something in the end appends something. -/
theorem after {step : Lowering ρ α} {next : α → Lowering ρ β} (stays : StaysComplete step)
    (rest : ∀ result, Appends (next result)) : Appends (step >>= next) := by
  intro session _ _ ran
  obtain ⟨result, middle, ran, ran'⟩ := bind_eq_ok_iff.mp ran
  have running := rest result _ _ _ ran'
  by_contra complete
  rw [stays _ _ _ ran (by simpa using complete)] at running
  cases running

end Appends

namespace Lower

/-- A result at hand leaves a complete test complete. -/
theorem pure_staysComplete (result : α) : StaysComplete (ρ := ρ) (pure result) := by
  rintro _ _ _ ⟨⟩ complete
  exact complete

/-- A lookup leaves a complete test complete. -/
theorem resolve_staysComplete (lookup : Lookup ρ α) : StaysComplete (resolve lookup) := by
  intro _ _ _ ran complete
  obtain ⟨_, -, rfl⟩ := resolve_ok ran
  exact complete

/-- A result at hand leaves a complete test complete. -/
theorem ofExcept_staysComplete (result : Except CompileError α) :
    StaysComplete (ρ := ρ) (ofExcept result) := by
  intro _ _ _ ran complete
  obtain ⟨-, rfl⟩ := ofExcept_ok ran
  exact complete

/-- The search for a variable leaves a complete test complete. -/
theorem ownerVar_staysComplete (owner : String) : StaysComplete (ρ := ρ) (ownerVar owner) := by
  intro _ _ _ ran complete
  obtain ⟨-, rfl⟩ := ownerVar_ok ran
  exact complete

/-- The check for a variable leaves a complete test complete. -/
theorem ensureUnbound_staysComplete (owner : String) :
    StaysComplete (ρ := ρ) (ensureUnbound owner) := by
  intro _ _ _ ran complete
  obtain ⟨-, rfl⟩ := ensureUnbound_ok ran
  exact complete

/-- A statement is appended. -/
theorem emit_appends (statement : Statement) : Appends (ρ := ρ) (emit statement) :=
  fun _ _ _ ran => (emit_ok ran).1

/-- A statement with a value for the next one is appended. -/
theorem temporary_appends {type : RuntimeType} {build : Var → Statement} :
    Appends (ρ := ρ) (temporary type build) :=
  fun _ _ _ ran => (temporary_ok ran).1

/-- A statement with a value for a plan is appended. -/
theorem define_appends {owner : String} {type : RuntimeType} {build : Var → Statement} :
    Appends (ρ := ρ) (define owner type build) :=
  .after (ensureUnbound_staysComplete owner) fun _ => .first temporary_appends

/-- A statement with or without a value for a plan is appended. -/
theorem append_appends (target : Option (String × RuntimeType)) (build : Option Var → Statement) :
    Appends (ρ := ρ) (append target build) := by
  cases target with
  | none => exact emit_appends (build none)
  | some target => exact .first define_appends

end Lower

variable [ClassLoading ρ] {config config' : CompilerConfig} {owner : String}

/-- A lowering leaves a complete test complete. -/
theorem Composed.staysComplete {reads : List Plan} {role : Role} {step step' : Lowering ρ α}
    (composed : Composed config config owner reads role step step') : StaysComplete step := by
  intro session _ _ ran complete
  have recorded := composed.records
    (fun read member => Lower.operand_records read (.root member)) session
  rw [ran] at recorded
  exact recorded.terminated complete

namespace Lower

/-- A plan that is read leaves a complete test complete. -/
theorem operand_staysComplete (config : CompilerConfig) (plan : Plan) :
    StaysComplete (ρ := ρ) (operand config plan) :=
  (@Composed.operand ρ _ config config "" [plan] plan List.mem_cons_self).staysComplete

/-- Plans that are read leave a complete test complete. -/
theorem operands_staysComplete (config : CompilerConfig) (plans : List Plan) :
    StaysComplete (ρ := ρ) (operands config plans) :=
  (@operands_composed ρ _ config config "" plans plans fun _ => id).staysComplete

/-- A receiver that is read leaves a complete test complete. -/
theorem receiverOperand_staysComplete (config : CompilerConfig) (receiver : Option Plan) :
    StaysComplete (ρ := ρ) (receiverOperand config receiver) :=
  (@receiverOperand_composed ρ _ config config "" receiver.toList receiver
    fun _ => id).staysComplete

/-- The lookup of an array type leaves a complete test complete. -/
theorem arrayType_staysComplete (owner : String) (type : ValueType) :
    StaysComplete (ρ := ρ) (arrayType owner type) :=
  (@arrayType_composed ρ _ {} {} owner [] type).staysComplete

/-- The lookup of the type of a result leaves a complete test complete. -/
theorem resultTarget_staysComplete (method : MethodReference) (target : Option String) :
    StaysComplete (ρ := ρ) (resultTarget method target) := by
  cases target with
  | none => exact pure_staysComplete none
  | some name =>
    exact (Composed.map (@resultType_composed ρ _ {} {} name [] name method)
      (some ∘ (name, ·))).staysComplete

/-- The lookup of the routine for an operand leaves a complete test complete. -/
theorem operandRoutine_staysComplete (helpers : HelperLibrary) (purpose : HelperPurpose)
    (operand : Operand) : StaysComplete (ρ := ρ) (operandRoutine helpers purpose operand) :=
  (@operandRoutine_composed ρ _ {} {} "" [] helpers purpose operand).staysComplete

/-- The lookup of the class of a field leaves a complete test complete. -/
theorem fieldLocator_staysComplete (field : FieldReference) :
    StaysComplete (ρ := ρ) (fieldLocator field) :=
  (@fieldLocator_composed ρ _ {} {} "" [] field).staysComplete

/-- A null in place of a receiver leaves a complete test complete. -/
theorem receiverOrNull_staysComplete (receiver : Option Operand) :
    StaysComplete (ρ := ρ) (receiverOrNull receiver) :=
  (@receiverOrNull_composed ρ _ {} {} "" [] receiver).staysComplete

section Steps

variable {reads : List Plan} {args : Lowering ρ (List Operand)} {value : Lowering ρ Operand}

/-- A call is appended. -/
theorem invoke_appends {callee : Lowering ρ (Option Operand)} (method : MethodReference)
    (target : Option String) (received : StaysComplete callee) (supplied : StaysComplete args) :
    Appends (invoke method callee args target) := by
  have checked : StaysComplete (ρ := ρ) (target.forM ensureUnbound) := by
    cases target with
    | none => exact pure_staysComplete ()
    | some name => exact ensureUnbound_staysComplete name
  refine .after checked fun _ => ?_
  split
  · exact .after (resolve_staysComplete _) fun _ => .after supplied fun _ => append_appends _ _
  · exact .after (resolve_staysComplete _) fun _ => .after (resultTarget_staysComplete _ _) fun _ =>
      .after received fun _ => .after supplied fun _ => append_appends _ _

/-- A read of a field is appended. -/
theorem readField_appends {receiver : Lowering ρ (Option Operand)} (field : FieldReference)
    (received : StaysComplete receiver) : Appends (readField owner field receiver) :=
  .after (resolve_staysComplete _) fun _ => .after (resolve_staysComplete _) fun _ =>
    .after received fun _ => .first define_appends

/-- A store in a field is appended. -/
theorem writeField_appends (receiver : Option Var) (field : FieldReference)
    (supplied : StaysComplete value) : Appends (writeField receiver field value) :=
  .after (resolve_staysComplete _) fun _ => .after supplied fun _ => emit_appends _

/-- A store through a helper is appended. -/
theorem setField_appends {helpers : HelperLibrary} (receiver : Option Operand)
    (field : FieldReference) (supplied : StaysComplete value) :
    Appends (setField helpers receiver field value) :=
  .after supplied fun _ => .after (operandRoutine_staysComplete _ _ _) fun _ =>
    .after (fieldLocator_staysComplete field) fun _ =>
      .after (receiverOrNull_staysComplete receiver) fun _ => emit_appends _

/-- A read through a helper is appended. -/
theorem getField_appends {helpers : HelperLibrary} (receiver : Option Operand)
    (field : FieldReference) : Appends (ρ := ρ) (getField helpers owner receiver field) :=
  .after (resolve_staysComplete _) fun _ => .after (resolve_staysComplete _) fun _ =>
    .after (fieldLocator_staysComplete field) fun _ =>
      .after (ensureUnbound_staysComplete owner) fun _ =>
        .after (receiverOrNull_staysComplete receiver) fun _ => append_appends _ _

/-- A direct step appends something. -/
theorem lowerAction_appends (step : Action) :
    Appends (ρ := ρ) (lowerAction config owner step) := by
  have read := @operand_staysComplete ρ _ config
  have readAll := @operands_staysComplete ρ _ config
  cases step with
  | arrayWrite index value =>
    exact .after (ownerVar_staysComplete owner) fun _ => .after (ofExcept_staysComplete _) fun _ =>
      .after (read value) fun _ => emit_appends _
  | constructorCall constructor args | externalConstructorCall constructor args =>
    exact invoke_appends constructor (some owner) (pure_staysComplete none) (readAll args)
  | innerClassConstructorCall _ _ _ => rintro _ _ _ ⟨⟩
  | defaultConstructorCall className =>
    exact .after (resolve_staysComplete _) fun _ => append_appends _ _
  | enumValueCreation className name =>
    exact .after (resolve_staysComplete _) fun _ => .after (resolve_staysComplete _) fun _ =>
      .first define_appends
  | methodCall method args =>
    exact .after (ownerVar_staysComplete owner) fun _ =>
      invoke_appends method none (pure_staysComplete _) (readAll args)
  | externalMethodCall method object args =>
    exact invoke_appends method (some owner) (receiverOperand_staysComplete config object)
      (readAll args)
  | staticMethodCall method args =>
    exact invoke_appends method none (pure_staysComplete none) (readAll args)
  | fieldGetter object field =>
    refine readField_appends field ?_
    exact receiverOperand_staysComplete config (some object)
  | staticFieldGetter field => exact readField_appends field (pure_staysComplete none)
  | fieldSetter field value =>
    exact .after (ownerVar_staysComplete owner) fun _ => writeField_appends _ field (read value)
  | staticFieldSetter field value => exact writeField_appends none field (read value)
  | newArray type length =>
    exact .after (arrayType_staysComplete owner type) fun _ =>
      .after (ofExcept_staysComplete _) fun _ => .first define_appends
  | newArrayWithInitializer type elements =>
    exact .after (arrayType_staysComplete owner type) fun _ => .first define_appends
  | classConstantGetter type =>
    exact .after (resolve_staysComplete _) fun _ => .after (resolve_staysComplete _) fun _ =>
      .first define_appends
  | arrayClassConstantGetter elementType =>
    -- Whatever the element type does, the array is made after it has been read.
    refine .after (ensureUnbound_staysComplete owner) fun _ => .after (read elementType) fun _ => ?_
    exact .after (resolve_staysComplete _) fun _ => .after (resolve_staysComplete _) fun _ =>
      .after (resolve_staysComplete _) fun _ => .after (resolve_staysComplete _) fun _ =>
        .first temporary_appends

/-- A reflective step appends something. -/
theorem lowerReflectiveAction_appends (step : ReflectiveAction) :
    Appends (ρ := ρ) (lowerReflectiveAction config owner step) := by
  have read := @operand_staysComplete ρ _ config
  cases step with
  | newInstance type =>
    exact .after (resolve_staysComplete _) fun _ => .after (resolve_staysComplete _) fun _ =>
      append_appends _ _
  | newArray type length =>
    exact .after (arrayType_staysComplete owner type) fun _ => .after (read length) fun _ =>
      .after (resolve_staysComplete _) fun _ => append_appends _ _
  | arrayWrite index value =>
    exact .after (ownerVar_staysComplete owner) fun _ => .after (read index) fun _ =>
      .after (read value) fun _ => .after (operandRoutine_staysComplete _ _ _) fun _ =>
        emit_appends _
  | arrayRead array index elementType =>
    exact .after (read array) fun _ => .after (read index) fun _ =>
      .after (resolve_staysComplete _) fun _ => .after (resolve_staysComplete _) fun _ =>
        append_appends _ _
  | setField field value =>
    exact .after (ownerVar_staysComplete owner) fun _ => setField_appends _ field (read value)
  | setStaticField field value => exact setField_appends none field (read value)
  | getField receiver field => exact .after (read receiver) fun _ => getField_appends _ field
  | getStaticField field => exact getField_appends none field

end Steps

/-- Only a plan without steps is lowered in a complete test. -/
theorem idle_of_lowerKind {plan : Plan} {session after : Compilation ρ} {result : Unit}
    (ran : lowerKind config plan.name plan.kind session = .ok result after)
    (complete : session.terminated = true) : plan.Idle := by
  -- Whatever appends something would have failed.
  have refuted : ∀ {step : Lowering ρ Unit}, Appends step →
      step session = .ok result after → plan.Idle := fun appends ran => by
    have running := appends _ _ _ ran
    rw [complete] at running
    cases running
  obtain ⟨name, kind⟩ := plan
  cases kind with
  | actions steps =>
    cases steps with
    | nil => exact .inl rfl
    | cons step rest => exact refuted (.first (lowerAction_appends step)) ran
  | reflection steps =>
    cases steps with
    | nil => exact .inr rfl
    | cons step rest => exact refuted (.first (lowerReflectiveAction_appends step)) ran
  | testCall call =>
    obtain ⟨method, receiver, args⟩ := call
    exact refuted (.first (invoke_appends method none
      (receiverOperand_staysComplete config receiver) (operands_staysComplete config args))) ran
  | primitive value =>
    refine refuted (.first ?_) ran
    unfold literalLeaf
    split
    · exact define_appends
    · exact .after (resolve_staysComplete _) fun _ => define_appends
  | text text =>
    exact refuted (.first (.after (resolve_staysComplete _) fun _ => define_appends)) ran
  | mock _ | unknown _ => cases ran

end Lower

/-! ### Failures inside plans -/

namespace Lower

omit [ClassLoading ρ]

variable {session after : Compilation ρ} {name : String} {error : CompileError}

/-- A plan that may not be entered leaves everything as it is. -/
theorem checkNesting_same (failed : checkNesting config name session = .error error after) :
    after = session := by
  rw [checkNesting, get_bind] at failed
  dsimp only at failed
  split at failed
  · -- A plan that is being compiled is refused.
    rcases bind_eq_error_iff.mp failed with ⟨⟨⟩⟩ | ⟨_, _, ⟨⟩, _⟩
    rfl
  -- All that is left is the limit, if there is one.
  cases limited : config.maxDepth with
  | none =>
    rw [limited] at failed
    cases failed
  | some limit =>
    simp only [limited] at failed
    split at failed <;> cases failed
    rfl

/-- A plan that fails has not been entered, or is left when its body has failed. -/
theorem once_error {body : Lowering ρ Unit}
    (failed : once config name body session = .error error after) :
    after = session ∨ session.bindings.isCompiled name = false ∧ name ∉ session.active ∧
      ∃ inside, body (session.enter name) = .error error inside ∧ after = inside.leave := by
  rw [once, get_bind] at failed
  split at failed
  · cases failed
  rename_i uncompiled
  rcases bind_eq_error_iff.mp failed with refused | ⟨_, _, checked, rest⟩
  · exact .inl (checkNesting_same refused)
  obtain ⟨outside, rfl⟩ := checkNesting_ok checked
  rcases bind_eq_error_iff.mp rest with failed | ⟨_, _, _, ⟨⟩⟩
  unfold within at failed
  split at failed
  · cases failed
  · rename_i lowered
    cases failed
    exact .inr ⟨by simpa using uncompiled, outside, _, lowered, rfl⟩

end Lower

/-! ### Names that are entered as compiled -/

variable {roots : List Plan}

section Marked

omit [ClassLoading ρ]

/-- A plan that may be entered as compiled: it is new, and idle when the test is complete. -/
structure Fresh (roots : List Plan) (session : Compilation ρ) (name : String) : Prop where
  outside : name ∉ session.active
  unbound : session.bindings.isBound name = false
  idle : session.terminated = true → ∃ plan, Needed roots plan ∧ plan.name = name ∧ plan.Idle

/-- Only fresh plans have been entered as compiled since. -/
structure Marked (roots : List Plan) (session after : Compilation ρ) : Prop where
  active : after.active = session.active
  terminated : session.terminated = true → after.terminated = true
  bound : ∀ name, session.bindings.isBound name = true → after.bindings.isBound name = true
  completed : ∀ name ∈ after.bindings.completed, name ∈ session.bindings.completed ∨
    Fresh roots session name

namespace Marked

variable {session middle after : Compilation ρ}

/-- Nothing is entered where the bindings stay as they are. -/
theorem of_same (bindings : after.bindings = session.bindings)
    (terminated : after.terminated = session.terminated)
    (active : after.active = session.active) : Marked roots session after where
  active := active
  terminated := terminated.trans
  bound name := by rw [bindings]; exact id
  completed name member := .inl (bindings ▸ member)

/-- What is fresh in the end was fresh before. -/
theorem fresh {name : String} (marked : Marked roots session after)
    (fresh : Fresh roots after name) : Fresh roots session name where
  outside := marked.active ▸ fresh.outside
  unbound := by
    have unbound := fresh.unbound
    by_contra bound
    rw [marked.bound name (by simpa using bound)] at unbound
    cases unbound
  idle complete := fresh.idle (marked.terminated complete)

/-- What is entered in two parts is entered. -/
theorem trans (first : Marked roots session middle) (second : Marked roots middle after) :
    Marked roots session after where
  active := second.active.trans first.active
  terminated complete := second.terminated (first.terminated complete)
  bound name bound := second.bound name (first.bound name bound)
  completed name member := by
    rcases second.completed name member with before | fresh
    · exact first.completed name before
    · exact .inr (first.fresh fresh)

end Marked

/-- Whether it succeeds or fails, a lowering enters only fresh plans as compiled. -/
def Marks (roots : List Plan) (step : Lowering ρ α) : Prop :=
  ∀ session, match step session with
    | .ok _ after
    | .error _ after => Marked roots session after

namespace Marks

/-- What has been entered when a lowering has succeeded. -/
theorem of_ok {step : Lowering ρ α} {session after : Compilation ρ} {result : α}
    (marks : Marks roots step) (ran : step session = .ok result after) :
    Marked roots session after := by
  have marked := marks session
  rwa [ran] at marked

/-- What has been entered when a lowering has failed. -/
theorem of_error {step : Lowering ρ α} {session after : Compilation ρ} {error : CompileError}
    (marks : Marks roots step) (failed : step session = .error error after) :
    Marked roots session after := by
  have marked := marks session
  rwa [failed] at marked

/-- Nothing is entered where the bindings stay as they are. -/
theorem of_same {step : Lowering ρ α}
    (same : ∀ session, match step session with
      | .ok _ after
      | .error _ after => after.bindings = session.bindings ∧
          after.terminated = session.terminated ∧ after.active = session.active) :
    Marks roots step := by
  intro session
  have same := same session
  revert same
  cases step session with
  | ok _ after => exact fun ⟨bindings, terminated, active⟩ => .of_same bindings terminated active
  | error _ after => exact fun ⟨bindings, terminated, active⟩ => .of_same bindings terminated active

/-- A result at hand enters nothing. -/
theorem pure {result : α} : Marks roots (Pure.pure result : Lowering ρ α) :=
  of_same fun _ => ⟨rfl, rfl, rfl⟩

/-- A failure at hand enters nothing. -/
theorem throw {error : CompileError} : Marks roots (MonadExcept.throw error : Lowering ρ α) :=
  of_same fun _ => ⟨rfl, rfl, rfl⟩

/-- Two lowerings in a row enter what each of them enters. -/
theorem bind {first : Lowering ρ α} {next : α → Lowering ρ β} (marks : Marks roots first)
    (rest : ∀ result, Marks roots (next result)) : Marks roots (first >>= next) := by
  intro session
  have marked := marks session
  cases ran : first session with
  | error error after =>
    rw [ran] at marked
    rw [bind_of_error ran]
    exact marked
  | ok result middle =>
    rw [ran] at marked
    rw [bind_of_ok ran]
    have marked' := rest result middle
    revert marked'
    cases next result middle with
    | ok _ after => exact marked.trans
    | error _ after => exact marked.trans

/-- The state may be read. -/
theorem get_bind {next : Compilation ρ → Lowering ρ α}
    (marks : ∀ state, Marks roots (next state)) : Marks roots (get >>= next) :=
  fun session => marks session session

end Marks

namespace Lower

/-- A statement is appended without an entry. -/
theorem emit_marks (statement : Statement) : Marks (ρ := ρ) roots (emit statement) := by
  refine .of_same fun session => ?_
  by_cases terminated : session.terminated = true
  · rw [emit_of_terminated terminated]
    exact ⟨rfl, rfl, rfl⟩
  · rw [emit_of_running (by simpa using terminated)]
    cases session.test.append statement <;> exact ⟨rfl, rfl, rfl⟩

/-- A variable is made without an entry. -/
theorem temporary_marks (type : RuntimeType) (build : Var → Statement) :
    Marks (ρ := ρ) roots (temporary type build) :=
  .get_bind fun _ => .bind (.of_same fun _ => ⟨rfl, rfl, rfl⟩) fun _ =>
    .bind (emit_marks _) fun _ => .pure

/-- Whether a plan has a variable is found out without an entry. -/
theorem ensureUnbound_marks (owner : String) : Marks (ρ := ρ) roots (ensureUnbound owner) := by
  refine .get_bind fun state => ?_
  split
  · exact .throw
  · exact .pure

/-- A plan gets its variable without an entry. -/
theorem define_marks (owner : String) (type : RuntimeType) (build : Var → Statement) :
    Marks (ρ := ρ) roots (define owner type build) := by
  refine .bind (ensureUnbound_marks owner) fun _ => .bind (temporary_marks type build) fun var =>
    fun session => ?_
  rw [get_bind, Bindings.bind]
  by_cases bound : session.bindings.isBound owner = true
  · rw [if_pos bound]
    exact .of_same rfl rfl rfl
  · rw [if_neg bound]
    -- The new variable comes after those that there are.
    refine ⟨rfl, id, fun name found => ?_, fun name => .inl⟩
    obtain ⟨known, found⟩ := Option.isSome_iff_exists.mp found
    have kept : (session.bindings.bound ++ [(owner, var)]).lookup name = some known := by
      rw [List.lookup_append, show session.bindings.bound.lookup name = some known from found]
      rfl
    exact Option.isSome_iff_exists.mpr ⟨known, kept⟩

/-- A plan is asked for its variable without an entry. -/
theorem ownerVar_marks (owner : String) : Marks (ρ := ρ) roots (ownerVar owner) := by
  refine .get_bind fun state => ?_
  split
  · exact .pure
  · exact .throw

/-- Something is looked up without an entry. -/
theorem resolve_marks (lookup : Lookup ρ α) : Marks roots (resolve lookup) := by
  refine .of_same fun session => ?_
  unfold resolve
  cases lookup session.loader <;> exact ⟨rfl, rfl, rfl⟩

/-- The value of a compiled plan is read without an entry. -/
theorem compiledValue_marks (name : String) : Marks (ρ := ρ) roots (compiledValue name) := by
  refine .get_bind fun state => ?_
  split
  · exact .pure
  · exact .throw

end Lower

end Marked

/-- A lowering enters what the plans that it reads enter. -/
theorem Composed.marks {reads : List Plan} {role : Role} {step step' : Lowering ρ α}
    (operands : ∀ read ∈ reads, Marks roots (Lower.operand (ρ := ρ) config read))
    (composed : Composed config config' owner reads role step step') : Marks roots step := by
  induction composed with
  | pure _ => exact .pure
  | throw _ => exact .throw
  | resolve _ => exact Lower.resolve_marks _
  | inspect _ _ _ ih => exact .get_bind fun session => ih session.test
  | operand member => exact operands _ member
  | emit statement => exact Lower.emit_marks statement
  | temporary type build => exact Lower.temporary_marks type build
  | ownerVar => exact Lower.ownerVar_marks _
  | define _ => exact Lower.define_marks _ _ _
  | ensureUnbound _ ih => exact .bind (Lower.ensureUnbound_marks _) ih
  | before _ _ ih ih' | after _ _ ih ih' => exact .bind ih ih'

/-- Steps enter what the plans that they read enter. -/
theorem ComposedSteps.marks {reads : List Plan} {roles : List Role}
    {steps steps' : Lowering ρ Unit}
    (operands : ∀ read ∈ reads, Marks roots (Lower.operand (ρ := ρ) config read))
    (composed : ComposedSteps config config' owner reads roles steps steps') :
    Marks roots steps := by
  induction composed with
  | nil => exact .pure
  | cons first _ ih => exact .bind (first.marks operands) fun _ => ih

/-- A plan that is lowered enters what it reads. -/
theorem ComposedPlan.marks {plan : Plan} {lower lower' : Lowering ρ Unit}
    (operands : ∀ read ∈ plan.kind.reads, Marks roots (Lower.operand (ρ := ρ) config read))
    (composed : ComposedPlan config config' plan lower lower') : Marks roots lower := by
  cases composed with
  | steps _ composed => exact composed.marks operands
  | leaf _ composed => exact composed.marks (List.forall_mem_nil _)
  | testCall _ composed =>
    refine .bind (composed.marks operands) fun _ session => ?_
    exact ⟨rfl, fun _ => rfl, fun _ => id, fun _ => .inl⟩
  | unsupported _ => exact .throw

namespace Lower

/-- A plan that is compiled at most once is entered itself when it has been lowered. -/
theorem once_marks {plan : Plan} (needed : Needed roots plan)
    (operands : ∀ read ∈ plan.kind.reads, Marks roots (operand (ρ := ρ) config read)) :
    Marks (ρ := ρ) roots (once config plan.name (lowerKind config plan.name plan.kind)) := by
  intro session
  have marks := (@lowerKind_composed ρ _ config config rfl plan).marks operands
  -- What is fresh inside the plan is fresh outside.
  have leave : ∀ {inside : Compilation ρ}, Marked roots (session.enter plan.name) inside →
      Marked roots session inside.leave := fun marked => {
    active := congrArg List.tail marked.active
    terminated := marked.terminated
    bound := marked.bound
    completed := fun name member => (marked.completed name member).imp_right fun fresh =>
      ⟨fun outside => fresh.outside (List.mem_cons_of_mem _ outside), fresh.unbound, fresh.idle⟩ }
  cases ran : once config plan.name (lowerKind config plan.name plan.kind) session with
  | error error after =>
    rcases once_error ran with rfl | ⟨-, -, inside, lowered, rfl⟩
    · exact .of_same rfl rfl rfl
    · exact leave (marks.of_error lowered)
  | ok result after =>
    rcases once_ok ran with ⟨-, rfl⟩ | ⟨uncompiled, outside, inside, lowered, rfl⟩
    · exact .of_same rfl rfl rfl
    have marked := leave (marks.of_ok lowered)
    refine ⟨marked.active, marked.terminated, marked.bound, fun name member => ?_⟩
    -- The plan itself is entered last, after what it reads.
    rcases List.mem_cons.mp member with rfl | before
    · refine .inr ⟨outside, (Bool.or_eq_false_iff.mp uncompiled).2, fun complete => ?_⟩
      exact ⟨plan, needed, rfl, idle_of_lowerKind lowered complete⟩
    · exact marked.completed name before

/-- A plan that is read enters itself and what it reads in turn. -/
theorem operand_marks (plan : Plan) (needed : Needed roots plan) :
    Marks roots (operand (ρ := ρ) config plan) := by
  -- The induction is on what a plan reads.
  induction plan using Plan.induction_reads with
  | step plan ih =>
    by_cases leaf : plan.isLeaf = true
    · intro session
      rcases operand_of_isLeaf leaf session with ⟨found, read⟩ | ⟨_, value, read⟩
      · rw [read]
        exact .of_same rfl rfl rfl
      · rw [read]
        have composed :=
          (@literalLeaf_composed ρ _ config config plan.name [] value).map Operand.var
        exact composed.marks (List.forall_mem_nil _) session
    have steps : plan.isLeaf = false := by simpa using leaf
    rw [operand_of_steps steps]
    refine .get_bind fun state => ?_
    split
    · exact .pure
    · exact .bind (once_marks needed fun read member => ih read member (needed.read member))
        fun _ => compiledValue_marks plan.name

end Lower

end TestPlan
