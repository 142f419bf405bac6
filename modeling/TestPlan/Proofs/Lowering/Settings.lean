import TestPlan.Proofs.Lowering.Traced

/-! What plans prescribe depends only on the classes and the helpers of a setting. -/

namespace TestPlan

variable {ρ : Type}

/-- Two settings that differ at most in the limit on nesting and in the plans. -/
structure Setting.Like (setting other : Setting ρ) : Prop where
  loader : other.loader = setting.loader
  helpers : other.config.helpers = setting.config.helpers

namespace Setting

variable {setting other : Setting ρ}

/-- Settings are like each other. -/
theorem Like.symm (like : setting.Like other) : other.Like setting :=
  ⟨like.loader.symm, like.helpers.symm⟩

/-- The arguments for a new array depend on the helpers. -/
theorem arrayArguments_congr (like : setting.Like other) (type : RuntimeType) (length : Operand) :
    setting.arrayArguments type length = other.arrayArguments type length := by
  unfold arrayArguments
  rw [like.helpers]

variable [ClassLoading ρ] {built : CompiledTest} {owner : String} {position : Nat}
  {statement : Statement} {positions : List Nat}

/-- What is found depends on the classes. -/
theorem Finds.congr {α : Type} {lookup : Lookup ρ α} {found : α}
    (finds : setting.Finds lookup found) (like : setting.Like other) :
    other.Finds lookup found := by
  obtain ⟨before, after, loads, looked⟩ := finds
  exact ⟨before, after, like.loader ▸ loads, looked⟩

/-- The routine of a name depends on the classes and the helpers. -/
theorem FindsRoutine.congr {name : String} {routine : HelperRoutine}
    (finds : setting.FindsRoutine name routine) (like : setting.Like other) :
    other.FindsRoutine name routine := by
  unfold FindsRoutine at finds ⊢
  rw [like.helpers]
  exact Finds.congr finds like

/-- The routine of a family depends on the classes and the helpers. -/
theorem FindsFamily.congr {purpose : HelperPurpose} {type : String} {routine : HelperRoutine}
    (finds : setting.FindsFamily purpose type routine) (like : setting.Like other) :
    other.FindsFamily purpose type routine := by
  unfold FindsFamily at finds ⊢
  rw [like.helpers]
  exact FindsRoutine.congr finds like

/-- The routine for an operand depends on the classes and the helpers. -/
theorem FindsOperand.congr {purpose : HelperPurpose} {operand : Operand} {routine : HelperRoutine}
    (finds : setting.FindsOperand built purpose operand routine) (like : setting.Like other) :
    other.FindsOperand built purpose operand routine := by
  obtain ⟨type, typed, finds⟩ := finds
  exact ⟨type, typed, finds.congr like⟩

/-- The operands for a field depend on the classes. -/
theorem Locates.congr {field : FieldReference} {locator : List Operand}
    (locates : setting.Locates field locator) (like : setting.Like other) :
    other.Locates field locator := by
  obtain ⟨loaded, finds, rfl⟩ := locates
  exact ⟨loaded, finds.congr like, rfl⟩

/-- A null for the next statement depends on the classes. -/
theorem NullAt.congr {var : Var} (null : setting.NullAt built position var)
    (like : setting.Like other) : other.NullAt built position var := by
  obtain ⟨there, type, finds, typed⟩ := null
  exact ⟨there, type, finds.congr like, typed⟩

/-- A call depends on the classes. -/
theorem Calls.congr {method : MethodReference} {callee : Option Operand} {args : List Operand}
    {owner : Option String} (calls : setting.Calls built method callee args owner statement)
    (like : setting.Like other) : other.Calls built method callee args owner statement := by
  cases calls with
  | constructor isConstructor finds receives =>
    exact .constructor isConstructor (finds.congr like) receives
  | method isMethod finds typed receives =>
    exact .method isMethod (finds.congr like)
      (fun given => (typed given).imp_left fun finds => finds.congr like) receives

/-- The statement of a direct step depends on the classes. -/
theorem Lowers.congr {step : Action} (lowers : setting.Lowers built owner position step statement)
    (like : setting.Like other) : other.Lowers built owner position step statement := by
  cases lowers with
  | arrayWrite bound place stands => exact .arrayWrite bound place stands
  | constructorCall stand calls => exact .constructorCall stand (calls.congr like)
  | externalConstructorCall stand calls => exact .externalConstructorCall stand (calls.congr like)
  | defaultConstructorCall finds owns => exact .defaultConstructorCall (finds.congr like) owns
  | enumValueCreation loads finds owns =>
    exact .enumValueCreation (loads.congr like) (finds.congr like) owns
  | methodCall bound stand calls => exact .methodCall bound stand (calls.congr like)
  | externalMethodCall received stand calls =>
    exact .externalMethodCall received stand (calls.congr like)
  | staticMethodCall stand calls => exact .staticMethodCall stand (calls.congr like)
  | fieldGetter finds typed stands owns =>
    exact .fieldGetter (finds.congr like) (typed.congr like) stands owns
  | staticFieldGetter finds typed owns =>
    exact .staticFieldGetter (finds.congr like) (typed.congr like) owns
  | fieldSetter finds bound stands => exact .fieldSetter (finds.congr like) bound stands
  | staticFieldSetter finds stands => exact .staticFieldSetter (finds.congr like) stands
  | newArray finds isArray size owns => exact .newArray (finds.congr like) isArray size owns
  | classConstantGetter finds value owns =>
    exact .classConstantGetter (finds.congr like) (value.congr like) owns

/-- The statements of a direct step depend on the classes. -/
theorem Prescribes.congr {step : Action}
    (prescribed : setting.Prescribes built owner step positions) (like : setting.Like other) :
    other.Prescribes built owner step positions := by
  cases prescribed with
  | one lowers there => exact .one (lowers.congr like) there
  | initializer finds isArray owns there stores =>
    exact .initializer (finds.congr like) isArray owns there stores
  | arrayClass stands allocates array asks result typed there owns next =>
    exact .arrayClass stands (allocates.congr like) (array.congr like) (asks.congr like)
      (result.congr like) typed there owns next

/-- The statement of a reflective step depends on the classes and the helpers. -/
theorem Reflects.congr {step : ReflectiveAction}
    (reflects : setting.Reflects built owner position step statement)
    (like : setting.Like other) : other.Reflects built owner position step statement := by
  cases reflects with
  | newInstance finds routine owns =>
    refine .newInstance (finds.congr like) ?_ owns
    rw [like.helpers]
    exact routine.congr like
  | newArray finds isArray stands routine owns =>
    rw [arrayArguments_congr like]
    exact .newArray (finds.congr like) isArray stands (routine.congr like) owns
  | arrayWrite bound place stands routine =>
    exact .arrayWrite bound place stands (routine.congr like)
  | arrayRead object place finds routine owns =>
    exact .arrayRead object place (finds.congr like) (routine.congr like) owns
  | setField bound stands routine locates =>
    exact .setField bound stands (routine.congr like) (locates.congr like)
  | getField stands finds routine locates owns =>
    exact .getField stands (finds.congr like) (routine.congr like) (locates.congr like) owns

/-- The statements of a reflective step depend on the classes and the helpers. -/
theorem PrescribesReflective.congr {step : ReflectiveAction}
    (prescribed : setting.PrescribesReflective built owner step positions)
    (like : setting.Like other) : other.PrescribesReflective built owner step positions := by
  cases prescribed with
  | one reflects there => exact .one (reflects.congr like) there
  | setStaticField stands routine locates null next =>
    exact .setStaticField stands (routine.congr like) (locates.congr like) (null.congr like) next
  | getStaticField finds routine locates null owns next =>
    exact .getStaticField (finds.congr like) (routine.congr like) (locates.congr like)
      (null.congr like) owns next

variable {plan : Plan}

/-- The statements of a step depend on the classes and the helpers. -/
theorem PrescribesStep.congr {index : Nat}
    (prescribed : setting.PrescribesStep built plan index positions) (like : setting.Like other) :
    other.PrescribesStep built plan index positions := by
  unfold PrescribesStep at prescribed ⊢
  split at prescribed
  · obtain ⟨step, there, prescribed⟩ := prescribed
    exact ⟨step, there, prescribed.congr like⟩
  · obtain ⟨step, there, prescribed⟩ := prescribed
    exact ⟨step, there, prescribed.congr like⟩
  · cases prescribed

/-- The statement of a literal or text depends on the classes. -/
theorem PrescribesLeaf.congr (prescribed : setting.PrescribesLeaf built plan position)
    (like : setting.Like other) : other.PrescribesLeaf built plan position := by
  cases prescribed with
  | literal kind constant typed owns there => exact .literal kind constant typed owns there
  | text kind finds owns there => exact .text kind (finds.congr like) owns there
  | null isNull finds owns there => exact .null isNull (finds.congr like) owns there

/-- The statement of a call under test depends on the classes. -/
theorem PrescribesCall.congr {call : TestCall}
    (prescribed : setting.PrescribesCall built call position) (like : setting.Like other) :
    other.PrescribesCall built call position := by
  obtain ⟨method, receiver, args⟩ := call
  obtain ⟨callee, operands, statement, received, stand, calls, there⟩ := prescribed
  exact ⟨callee, operands, statement, received, stand, calls.congr like, there⟩

end Setting

/-- A plan is settled in every setting of the same classes and helpers that has it as a root. -/
theorem Settled.congr [ClassLoading ρ] {setting other : Setting ρ} {built : CompiledTest}
    {origins : List Origin} {plan : Plan} (settled : Settled setting built origins plan)
    (like : setting.Like other) (root : plan ∈ setting.roots → plan ∈ other.roots) :
    Settled other built origins plan where
  steps index inside later kept := (settled.steps index inside later kept).congr like
  indices := settled.indices
  in_order := settled.in_order
  served := settled.served
  leaf := settled.leaf
  statement leaf := by
    obtain ⟨position, only, prescribed⟩ := settled.statement leaf
    exact ⟨position, only, fun later kept => (prescribed later kept).congr like⟩
  root constant := root (settled.root constant)
  kind := settled.kind

end TestPlan
