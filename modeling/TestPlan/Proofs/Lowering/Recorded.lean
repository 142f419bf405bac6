import TestPlan.Proofs.Lowering.ComposedPlan
import TestPlan.Proofs.Lowering.Requests
import TestPlan.Proofs.Plan.Nesting

/-! Which plans are recorded as compiled, at any depth and also when the compilation fails. -/

namespace TestPlan

variable {ρ α β : Type} {roots : List Plan}

/-- Only needed plans have been recorded since, and with a call under test the test is complete. -/
structure Recorded (roots : List Plan) (session after : Compilation ρ) : Prop where
  terminated : session.terminated = true → after.terminated = true
  completed : ∀ name ∈ after.bindings.completed, name ∈ session.bindings.completed ∨
    ∃ plan, Needed roots plan ∧ plan.name = name ∧
      (plan.isTestCall = true → after.terminated = true)

namespace Recorded

variable {session middle after : Compilation ρ}

/-- Without new records nothing has been recorded. -/
theorem of_same (completed : after.bindings.completed = session.bindings.completed)
    (terminated : after.terminated = session.terminated) : Recorded roots session after where
  terminated := terminated.trans
  completed _ member := .inl (completed ▸ member)

/-- What is recorded in two parts is recorded. -/
theorem trans (first : Recorded roots session middle) (second : Recorded roots middle after) :
    Recorded roots session after where
  terminated ended := second.terminated (first.terminated ended)
  completed name member := by
    rcases second.completed name member with before | found
    · -- A test that is complete halfway is complete in the end.
      exact (first.completed name before).imp_right fun ⟨plan, needed, named, ended⟩ =>
        ⟨plan, needed, named, fun call => second.terminated (ended call)⟩
    · exact .inr found

end Recorded

/-- Whether it succeeds or fails, a lowering records only needed plans. -/
def Records (roots : List Plan) (step : Lowering ρ α) : Prop :=
  ∀ session, match step session with
    | .ok _ after
    | .error _ after => Recorded roots session after

namespace Records

/-- A lowering that leaves the records alone records nothing. -/
theorem of_same {step : Lowering ρ α}
    (same : ∀ session, match step session with
      | .ok _ after
      | .error _ after => after.bindings.completed = session.bindings.completed ∧
          after.terminated = session.terminated) : Records roots step := by
  intro session
  have same := same session
  revert same
  cases step session with
  | ok _ after => exact fun same => .of_same same.1 same.2
  | error _ after => exact fun same => .of_same same.1 same.2

/-- A result at hand records nothing. -/
theorem pure {result : α} : Records roots (Pure.pure result : Lowering ρ α) :=
  of_same fun _ => ⟨rfl, rfl⟩

/-- A failure at hand records nothing. -/
theorem throw {error : CompileError} : Records roots (MonadExcept.throw error : Lowering ρ α) :=
  of_same fun _ => ⟨rfl, rfl⟩

/-- Two lowerings in a row record what each of them records. -/
theorem bind {first : Lowering ρ α} {next : α → Lowering ρ β} (records : Records roots first)
    (rest : ∀ result, Records roots (next result)) : Records roots (first >>= next) := by
  intro session
  have recorded := records session
  cases ran : first session with
  | error error after =>
    rw [ran] at recorded
    rw [bind_of_error ran]
    exact recorded
  | ok result middle =>
    rw [ran] at recorded
    rw [bind_of_ok ran]
    have recorded' := rest result middle
    revert recorded'
    cases next result middle with
    | ok _ after => exact recorded.trans
    | error _ after => exact recorded.trans

/-- The state may be read. -/
theorem get_bind {next : Compilation ρ → Lowering ρ α}
    (records : ∀ state, Records roots (next state)) : Records roots (get >>= next) :=
  fun session => records session session

end Records

namespace Lower

/-- A statement is appended without a record. -/
theorem emit_records (statement : Statement) : Records (ρ := ρ) roots (emit statement) := by
  refine .of_same fun session => ?_
  -- Either the statement is refused and nothing changes, or only the test case does.
  by_cases terminated : session.terminated = true
  · rw [emit_of_terminated terminated]
    exact ⟨rfl, rfl⟩
  · rw [emit_of_running (by simpa using terminated)]
    cases session.test.append statement <;> exact ⟨rfl, rfl⟩

/-- A variable is made without a record. -/
theorem temporary_records (type : RuntimeType) (build : Var → Statement) :
    Records (ρ := ρ) roots (temporary type build) :=
  .get_bind fun _ => .bind (.of_same fun _ => ⟨rfl, rfl⟩) fun _ =>
    .bind (emit_records _) fun _ => .pure

/-- Whether a plan has a variable is found out without a record. -/
theorem ensureUnbound_records (owner : String) :
    Records (ρ := ρ) roots (ensureUnbound owner) := by
  refine .get_bind fun state => ?_
  split
  · exact .throw
  · exact .pure

/-- A plan gets its variable without a record. -/
theorem define_records (owner : String) (type : RuntimeType) (build : Var → Statement) :
    Records (ρ := ρ) roots (define owner type build) := by
  refine .bind (ensureUnbound_records owner) fun _ => .bind (temporary_records type build) fun _ =>
    .of_same fun session => ?_
  -- The variable is added to the bindings as they are, records included.
  rw [get_bind, Bindings.bind]
  by_cases bound : session.bindings.isBound owner = true
  · rw [if_pos bound]
    exact ⟨rfl, rfl⟩
  · rw [if_neg bound]
    exact ⟨rfl, rfl⟩

/-- A plan is asked for its variable without a record. -/
theorem ownerVar_records (owner : String) : Records (ρ := ρ) roots (ownerVar owner) := by
  refine .get_bind fun state => ?_
  split
  · exact .pure
  · exact .throw

/-- Something is looked up without a record. -/
theorem resolve_records (lookup : Lookup ρ α) : Records roots (resolve lookup) := by
  refine .of_same fun session => ?_
  unfold resolve
  cases lookup session.loader <;> exact ⟨rfl, rfl⟩

/-- Whether a plan may be entered is found out without a record. -/
theorem checkNesting_records (config : CompilerConfig) (name : String) :
    Records (ρ := ρ) roots (checkNesting config name) := by
  refine .get_bind fun state => ?_
  -- Neither of the two refusals changes anything.
  cases config.maxDepth with
  | none =>
    dsimp only
    split
    · exact .bind .throw fun _ => .pure
    · exact .pure
  | some limit =>
    have limited : Records (ρ := ρ) roots
        (if limit.toNat ≤ state.active.length then throw (.depthExceeded limit.toNat)
          else pure ()) := by
      split
      · exact .throw
      · exact .pure
    dsimp only
    split
    · exact .bind .throw fun _ => limited
    · exact limited

end Lower

variable [ClassLoading ρ] {config : CompilerConfig}

/-- A lowering records what the plans that it reads record. -/
theorem Composed.records {reads : List Plan} {owner : String} {role : Role}
    {step step' : Lowering ρ α}
    (operands : ∀ read ∈ reads, Records roots (Lower.operand (ρ := ρ) config read))
    (composed : Composed config config owner reads role step step') : Records roots step := by
  induction composed with
  | pure _ => exact .pure
  | throw _ => exact .throw
  | resolve _ => exact Lower.resolve_records _
  | inspect _ _ _ ih => exact .get_bind fun session => ih session.test
  | operand member => exact operands _ member
  | emit statement => exact Lower.emit_records statement
  | temporary type build => exact Lower.temporary_records type build
  | ownerVar => exact Lower.ownerVar_records _
  | define _ => exact Lower.define_records _ _ _
  | ensureUnbound _ ih => exact .bind (Lower.ensureUnbound_records _) ih
  | before _ _ ih ih' | after _ _ ih ih' => exact .bind ih ih'

/-- Steps record what the plans that they read record. -/
theorem ComposedSteps.records {reads : List Plan} {owner : String} {roles : List Role}
    {steps steps' : Lowering ρ Unit}
    (operands : ∀ read ∈ reads, Records roots (Lower.operand (ρ := ρ) config read))
    (composed : ComposedSteps config config owner reads roles steps steps') :
    Records roots steps := by
  -- The induction is on the steps, each of them lowered where the one before has ended.
  induction composed with
  | nil => exact .pure
  | cons first _ ih => exact .bind (first.records operands) fun _ => ih

/-- A plan that is lowered records what it reads, and is the end of the test if it is its call. -/
theorem ComposedPlan.records {plan : Plan} {lower lower' : Lowering ρ Unit}
    (operands : ∀ read ∈ plan.kind.reads, Records roots (Lower.operand (ρ := ρ) config read))
    (composed : ComposedPlan config config plan lower lower') :
    Records roots lower ∧ ∀ {session result after}, plan.isTestCall = true →
      lower session = .ok result after → after.terminated = true := by
  cases composed with
  | steps made composed =>
    -- A plan that is made of steps is no call.
    refine ⟨composed.records operands, fun call => ?_⟩
    rw [Plan.isTestCall_of_roles? made] at call
    cases call
  | leaf leaf composed =>
    refine ⟨composed.records (List.forall_mem_nil _), fun call => ?_⟩
    rw [(Plan.roles?_of_isLeaf leaf).2] at call
    cases call
  | testCall _ composed =>
    constructor
    · -- Marking the test as complete records nothing.
      refine .bind (composed.records operands) fun _ session => ?_
      exact ⟨fun _ => rfl, fun _ => .inl⟩
    · intro session result after _ ran
      obtain ⟨_, _, _, ⟨⟩⟩ := bind_eq_ok_iff.mp ran
      rfl
  | unsupported _ => exact ⟨.throw, nofun⟩

namespace Lower

/-- A plan that is compiled at most once records itself and what it reads. -/
theorem once_records {plan : Plan} (needed : Needed roots plan)
    (operands : ∀ read ∈ plan.kind.reads, Records roots (operand (ρ := ρ) config read)) :
    Records (ρ := ρ) roots (once config plan.name (lowerKind config plan.name plan.kind)) := by
  obtain ⟨records, ends⟩ := (@lowerKind_composed ρ _ config config rfl plan).records operands
  refine .get_bind fun state => ?_
  split
  · exact .pure
  refine .bind (checkNesting_records config plan.name) fun _ session => ?_
  have recorded := records (session.enter plan.name)
  cases ran : lowerKind config plan.name plan.kind (session.enter plan.name) with
  | error error inside =>
    -- A plan that fails is left without being recorded itself.
    rw [ran] at recorded
    have left : within plan.name (lowerKind config plan.name plan.kind) session
        = .error error inside.leave := by rw [within, ran]
    rw [bind_of_error left]
    exact ⟨recorded.terminated, recorded.completed⟩
  | ok result inside =>
    rw [ran] at recorded
    have left : within plan.name (lowerKind config plan.name plan.kind) session
        = .ok () inside.leave := by rw [within, ran]
    have complete : plan.isTestCall = true → inside.terminated = true := fun call => ends call ran
    rw [bind_of_ok left]
    refine ⟨recorded.terminated, fun name member => ?_⟩
    -- The plan itself is recorded last, after what it reads.
    rcases List.mem_cons.mp member with rfl | before
    · exact .inr ⟨plan, needed, rfl, complete⟩
    · exact recorded.completed name before

omit [ClassLoading ρ] in
/-- The value of a compiled plan is read without a record. -/
theorem compiledValue_records (name : String) : Records (ρ := ρ) roots (compiledValue name) := by
  refine .get_bind fun state => ?_
  split
  · exact .pure
  · exact .throw

/-- A plan that is read records itself and what it reads in turn. -/
theorem operand_records (plan : Plan) (needed : Needed roots plan) :
    Records roots (operand (ρ := ρ) config plan) := by
  -- The induction is on what a plan reads.
  induction plan using Plan.induction_reads with
  | step plan ih =>
    by_cases leaf : plan.isLeaf = true
    · -- A literal or text is never recorded when it is read, not even null.
      intro session
      rcases operand_of_isLeaf leaf session with ⟨found, read⟩ | ⟨_, value, read⟩
      · rw [read]
        exact .of_same rfl rfl
      · rw [read]
        have composed :=
          (@literalLeaf_composed ρ _ config config plan.name [] value).map Operand.var
        exact composed.records (List.forall_mem_nil _) session
    have steps : plan.isLeaf = false := by simpa using leaf
    rw [operand_of_steps steps]
    refine .get_bind fun state => ?_
    split
    · exact .pure
    · exact .bind (once_records needed fun read member => ih read member (needed.read member))
        fun _ => compiledValue_records plan.name

/-- Roots that are compiled one after the other record themselves and what they read. -/
theorem forM_compile_records :
    ∀ plans ⊆ roots, Records roots (plans.forM (compile (ρ := ρ) config))
  | [], _ => .pure
  | plan :: rest, inside =>
    have needed : Needed roots plan := .root (inside List.mem_cons_self)
    .bind (once_records needed fun read member => operand_records read (needed.read member))
      fun _ => forM_compile_records rest (List.subset_of_cons_subset inside)

end Lower

/-- A request records only the plans asked for and what they read. -/
theorem Request.compile_records (config : CompilerConfig) (request : Request) :
    Records (ρ := ρ) request.plans (request.compile config) := by
  cases request with
  | plan root =>
    have needed : Needed [root] root := .root List.mem_cons_self
    exact Lower.once_records needed fun read member =>
      Lower.operand_records read (needed.read member)
  | parameters needed => exact Lower.forM_compile_records needed.roots fun _ => id
  | testCall call =>
    have composed := @Lower.lowerKind_composed ρ _ config config rfl (.mk "" (.testCall call))
    exact (composed.records fun read member => Lower.operand_records read (.root member)).1

/-- What is recorded after a request was recorded before or is needed for it. -/
theorem Compilation.answer_recorded (config : CompilerConfig) (session : Compilation ρ)
    (request : Request) : Recorded request.plans session (session.answer config request) := by
  have records := request.compile_records config session
  unfold answer
  revert records
  cases request.compile config session with
  | ok _ after => exact id
  | error _ after => exact id

end TestPlan
