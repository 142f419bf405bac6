import TestPlan.Proofs.Lowering.Memo
import TestPlan.Proofs.Lowering.Shadowed

/-!
A lowering that succeeds does the same without a limit and inside more plans, as long as it need
not enter these, and what it reads leaves the test running.
-/

namespace TestPlan

variable {ρ α β : Type} {roots : List Plan} {names : List String}

/-- The compilation as if it took place inside more plans. -/
def Compilation.veiled (session : Compilation ρ) (names : List String) : Compilation ρ :=
  { session with active := session.active ++ names }

/-- The configuration without a limit on the nesting of plans. -/
def CompilerConfig.unlimited (config : CompilerConfig) : CompilerConfig :=
  { config with maxDepth := none }

/-- Names that need not be entered: they have values, or no needed plan has them. -/
def Passed (roots : List Plan) (names : List String) (session : Compilation ρ) : Prop :=
  ∀ name ∈ names, session.bindings.isBound name = true ∨
    ∀ plan, Needed roots plan → plan.name ≠ name

/-- What need not be entered need not be entered later. -/
theorem Passed.mono {session after : Compilation ρ} (passed : Passed roots names session)
    (marked : Marked roots session after) : Passed roots names after :=
  fun name member => (passed name member).imp_left (marked.bound name)

/-- What a lowering does when it succeeds, another one does inside more plans. -/
def Veils (roots : List Plan) (names : List String) (step free : Lowering ρ α) : Prop :=
  ∀ session result after, Passed roots names session → step session = .ok result after →
    free (session.veiled names) = .ok result (after.veiled names)

namespace Veils

/-- A result at hand does not depend on the plans around it. -/
theorem pure {result : α} :
    Veils roots names (Pure.pure result : Lowering ρ α) (Pure.pure result) := by
  rintro _ _ _ _ ⟨⟩
  rfl

/-- A failure is nothing that succeeds. -/
theorem throw {error : CompileError} {free : Lowering ρ α} :
    Veils roots names (MonadExcept.throw error) free := by
  rintro _ _ _ _ ⟨⟩

/-- Two lowerings in a row do the same when each of them does. -/
theorem bind {first free : Lowering ρ α} {next free' : α → Lowering ρ β}
    (veils : Veils roots names first free) (marks : Marks roots first)
    (rest : ∀ result, Veils roots names (next result) (free' result)) :
    Veils roots names (first >>= next) (free >>= free') := by
  intro session _ _ passed ran
  obtain ⟨result, middle, ran, ran'⟩ := bind_eq_ok_iff.mp ran
  rw [bind_of_ok (veils _ _ _ passed ran)]
  exact rest result _ _ _ (passed.mono (marks.of_ok ran)) ran'

/-- A look at anything but the plans around shows the same. -/
theorem get_bind {next free : Compilation ρ → Lowering ρ α}
    (rest : ∀ state, Veils roots names (next state) (free (state.veiled names))) :
    Veils roots names (get >>= next) (get >>= free) :=
  fun session result after passed ran => rest session session result after passed ran

end Veils

section Once

variable {plan : Plan} {config : CompilerConfig} {session after : Compilation ρ}

/-- A plan that may be entered may be entered inside plans of other names without a limit. -/
theorem Lower.checkNesting_unlimited {name : String} (outside : name ∉ session.active) :
    checkNesting config.unlimited name session = .ok () session := by
  rw [checkNesting, get_bind]
  simp [outside, CompilerConfig.unlimited]
  rfl

/-- A plan that is compiled at most once is so inside more plans. -/
theorem Lower.once_veils {lower free : Lowering ρ Unit} (needed : Needed roots plan)
    (veils : Veils roots names lower free) (marks : Marks roots lower) :
    Veils roots names (once config plan.name lower) (once config.unlimited plan.name free) := by
  intro session result after passed ran
  rw [once, get_bind]
  rcases once_ok ran with ⟨compiled, rfl⟩ | ⟨uncompiled, outside, inside, lowered, rfl⟩
  · exact congrFun (if_pos compiled) _
  have apart : plan.name ∉ (session.veiled names).active := by
    -- The plan is none of those that need not be entered, since it is entered now.
    rw [Compilation.veiled, List.mem_append, not_or]
    refine ⟨outside, fun member => ?_⟩
    rcases passed _ member with bound | none
    · rw [Bindings.isCompiled, bound, Bool.or_true] at uncompiled
      cases uncompiled
    · exact none plan needed rfl
  have entered := veils (session.enter plan.name) _ _ passed lowered
  have innermost : inside.active = plan.name :: session.active := (marks.of_ok lowered).active
  have left : (inside.veiled names).leave = inside.leave.veiled names := by
    simp [Compilation.veiled, Compilation.leave, innermost]
  have uncompiled : (session.veiled names).bindings.isCompiled plan.name = false := uncompiled
  have within : within plan.name free (session.veiled names)
      = .ok () (inside.leave.veiled names) := by
    rw [within, show (session.veiled names).enter plan.name
      = (session.enter plan.name).veiled names from rfl, entered, ← left]
  rw [if_neg (by simp [uncompiled]), bind_of_ok (checkNesting_unlimited apart),
    bind_of_ok within]
  rfl

end Once

variable [ClassLoading ρ] {config config' : CompilerConfig}

/-- A lowering does the same inside more plans when the plans that it reads do. -/
theorem Composed.veils {reads : List Plan} {owner : String} {role : Role}
    {step free : Lowering ρ α} (needed : ∀ read ∈ reads, Needed roots read)
    (operands : ∀ read ∈ reads,
      Veils roots names (Lower.operand (ρ := ρ) config read) (Lower.operand config' read))
    (composed : Composed config config' owner reads role step free) :
    Veils roots names step free := by
  have marks : ∀ read ∈ reads, Marks roots (Lower.operand (ρ := ρ) config read) :=
    fun read member => Lower.operand_marks read (needed read member)
  induction composed with
  | pure _ => exact .pure
  | throw _ => exact .throw
  | resolve _ =>
    intro _ _ _ _ ran
    obtain ⟨loader, found, rfl⟩ := Lower.resolve_ok ran
    unfold Lower.resolve
    rw [Compilation.veiled, found]
    rfl
  | inspect _ _ _ ih => exact .get_bind fun session => ih session.test
  | operand member => exact operands _ member
  | emit statement =>
    intro session _ _ _ ran
    obtain ⟨running, accepted, rfl⟩ := Lower.emit_ok ran
    exact @Lower.emit_of_accepts ρ (session.veiled names) statement running accepted
  | temporary type build defines =>
    intro session _ _ _ ran
    obtain ⟨running, reads, rfl, rfl⟩ := Lower.temporary_ok ran
    have made := @Lower.temporary_eq ρ (session.veiled names) type build (defines _) reads
    rwa [if_neg (by simp [Compilation.veiled, running])] at made
  | ownerVar =>
    intro session var _ _ ran
    obtain ⟨found, rfl⟩ := Lower.ownerVar_ok ran
    rw [Lower.ownerVar, get_bind, Compilation.veiled, found]
    rfl
  | @define type build defines =>
    intro session _ _ _ ran
    obtain ⟨ready, reads, rfl, rfl⟩ := Lower.define_ok defines ran
    have made := @Lower.define_eq ρ (session.veiled names) type build owner (defines _) reads
    rwa [if_neg (by simp [Compilation.veiled, ready.unbound _ _ rfl]),
      if_neg (by simp [Compilation.veiled, ready.running])] at made
  | ensureUnbound _ ih =>
    refine .bind (fun session _ after _ ran => ?_) (Lower.ensureUnbound_marks _) ih
    obtain ⟨unbound, rfl⟩ := Lower.ensureUnbound_ok ran
    have passes := @Lower.ensureUnbound_eq ρ (after.veiled names) owner
    rwa [if_neg (by simp [Compilation.veiled, unbound])] at passes
  | before first _ ih ih' | after first _ ih ih' => exact .bind ih (first.marks marks) ih'

/-- Steps do the same inside more plans when the plans that they read do. -/
theorem ComposedSteps.veils {reads : List Plan} {owner : String} {roles : List Role}
    {steps free : Lowering ρ Unit} (needed : ∀ read ∈ reads, Needed roots read)
    (operands : ∀ read ∈ reads,
      Veils roots names (Lower.operand (ρ := ρ) config read) (Lower.operand config' read))
    (composed : ComposedSteps config config' owner reads roles steps free) :
    Veils roots names steps free := by
  induction composed with
  | nil => exact .pure
  | cons first _ ih =>
    refine .bind (first.veils needed operands) (first.marks fun read member => ?_) fun _ => ih
    exact Lower.operand_marks read (needed read member)

/-- A plan is lowered in the same way inside more plans when the plans that it reads are. -/
theorem ComposedPlan.veils {plan : Plan} {lower free : Lowering ρ Unit}
    (needed : ∀ read ∈ plan.kind.reads, Needed roots read)
    (operands : ∀ read ∈ plan.kind.reads,
      Veils roots names (Lower.operand (ρ := ρ) config read) (Lower.operand config' read))
    (composed : ComposedPlan config config' plan lower free) : Veils roots names lower free := by
  cases composed with
  | steps _ composed => exact composed.veils needed operands
  | leaf _ composed => exact composed.veils (List.forall_mem_nil _) (List.forall_mem_nil _)
  | testCall _ composed =>
    refine .bind (composed.veils needed operands) (composed.marks fun read member => ?_)
      fun _ session _ _ _ ran => ?_
    · exact Lower.operand_marks read (needed read member)
    · cases ran
      rfl
  | unsupported _ => exact .throw

namespace Lower

/-- A literal or text is read in the same way inside more plans. -/
theorem operandLeaf_veils {plan : Plan} (leaf : plan.isLeaf = true) :
    Veils roots names (operand (ρ := ρ) config plan) (operand config' plan) := by
  obtain ⟨name, kind⟩ := plan
  unfold operand
  refine .get_bind fun state => ?_
  dsimp only [Compilation.veiled]
  split
  · exact .pure
  cases kind with
  | primitive value =>
    dsimp only
    split
    · exact .pure
    · have composed := @literalLeaf_composed ρ _ config config' name [] value
      exact .bind (composed.veils (List.forall_mem_nil _) (List.forall_mem_nil _))
        (composed.marks (List.forall_mem_nil _)) fun _ => .pure
  | text text => exact .pure
  | actions _ | reflection _ | testCall _ | mock _ | unknown _ => cases leaf

/-- A plan that is read is read in the same way inside more plans. -/
theorem operand_veils (plan : Plan) (needed : Needed roots plan) :
    Veils roots names (operand (ρ := ρ) config plan) (operand config.unlimited plan) := by
  -- The induction is on what a plan reads.
  induction plan using Plan.induction_reads with
  | step plan ih =>
    by_cases leaf : plan.isLeaf = true
    · exact operandLeaf_veils leaf
    have steps : plan.isLeaf = false := by simpa using leaf
    have inside : ∀ read ∈ plan.kind.reads, Needed roots read := fun read => needed.read
    rw [operand_of_steps steps, operand_of_steps steps]
    refine .get_bind fun state => ?_
    dsimp only [Compilation.veiled]
    split
    · exact .pure
    have composed := @lowerKind_composed ρ _ config config.unlimited rfl plan
    have marks := composed.marks fun read member => operand_marks read (inside read member)
    refine .bind (once_veils needed ?_ marks) ?_ fun _ => ?_
    · exact composed.veils inside fun read member => ih read member (inside read member)
    · exact once_marks needed fun read member => operand_marks read (inside read member)
    · refine .get_bind fun state => ?_
      dsimp only [Compilation.veiled]
      split
      · exact .pure
      · exact .throw

/-- A plan of any kind is lowered in the same way inside more plans. -/
theorem lowerKind_veils {plan : Plan} (needed : Needed roots plan) :
    Veils roots names (lowerKind (ρ := ρ) config plan.name plan.kind)
      (lowerKind config.unlimited plan.name plan.kind) :=
  (@lowerKind_composed ρ _ config config.unlimited rfl plan).veils (fun _ => needed.read)
    fun read member => operand_veils read (needed.read member)

/-- A plan of any kind enters only fresh plans as compiled. -/
theorem lowerKind_marks {plan : Plan} (needed : Needed roots plan) :
    Marks roots (lowerKind (ρ := ρ) config plan.name plan.kind) :=
  (@lowerKind_composed ρ _ config config rfl plan).marks fun read member =>
    operand_marks read (needed.read member)

/-- A plan is compiled in the same way inside more plans. -/
theorem compile_veils {plan : Plan} (needed : Needed roots plan) :
    Veils roots names (compile (ρ := ρ) config plan) (compile config.unlimited plan) :=
  once_veils needed (lowerKind_veils needed) (lowerKind_marks needed)

end Lower

/-! ### Plans that are read leave the test running -/

/-- A lowering that leaves a running test running when it succeeds. -/
def StaysRunning (step : Lowering ρ α) : Prop :=
  ∀ session result after, step session = .ok result after → session.terminated = false →
    after.terminated = false

omit [ClassLoading ρ] in
/-- Two lowerings in a row leave the test running when each of them does. -/
theorem StaysRunning.bind {first : Lowering ρ α} {next : α → Lowering ρ β}
    (stays : StaysRunning first) (rest : ∀ result, StaysRunning (next result)) :
    StaysRunning (first >>= next) := by
  intro _ _ _ ran running
  obtain ⟨result, _, ran, ran'⟩ := bind_eq_ok_iff.mp ran
  exact rest result _ _ _ ran' (stays _ _ _ ran running)

/-- A step leaves the test running when the plans that it reads do. -/
theorem Composed.staysRunning {reads : List Plan} {owner : String} {role : Role}
    {step step' : Lowering ρ α}
    (operands : ∀ read ∈ reads, StaysRunning (Lower.operand (ρ := ρ) config read))
    (composed : Composed config config' owner reads role step step') : StaysRunning step := by
  induction composed with
  | pure _ =>
    rintro _ _ _ ⟨⟩ running
    exact running
  | throw _ => rintro _ _ _ ⟨⟩
  | resolve _ =>
    intro _ _ _ ran running
    obtain ⟨_, -, rfl⟩ := Lower.resolve_ok ran
    exact running
  | inspect _ _ _ ih => exact fun session => ih session.test session
  | operand member => exact operands _ member
  | emit statement =>
    intro _ _ _ ran running
    obtain ⟨-, -, rfl⟩ := Lower.emit_ok ran
    exact running
  | temporary type build =>
    intro _ _ _ ran running
    obtain ⟨-, -, -, rfl⟩ := Lower.temporary_ok ran
    exact running
  | ownerVar =>
    intro _ _ _ ran running
    obtain ⟨-, rfl⟩ := Lower.ownerVar_ok ran
    exact running
  | define defines =>
    intro _ _ _ ran running
    obtain ⟨-, -, -, rfl⟩ := Lower.define_ok defines ran
    exact running
  | ensureUnbound _ ih =>
    refine .bind (fun _ _ _ ran running => ?_) ih
    obtain ⟨-, rfl⟩ := Lower.ensureUnbound_ok ran
    exact running
  | before _ _ ih ih' | after _ _ ih ih' => exact .bind ih ih'

/-- Steps leave the test running when the plans that they read do. -/
theorem ComposedSteps.staysRunning {reads : List Plan} {owner : String} {roles : List Role}
    {steps steps' : Lowering ρ Unit}
    (operands : ∀ read ∈ reads, StaysRunning (Lower.operand (ρ := ρ) config read))
    (composed : ComposedSteps config config' owner reads roles steps steps') :
    StaysRunning steps := by
  induction composed with
  | nil =>
    rintro _ _ _ ⟨⟩ running
    exact running
  | cons first _ ih => exact .bind (first.staysRunning operands) fun _ => ih

section Plans

variable {plan : Plan} {lower lower' : Lowering ρ Unit}

/-- A plan that is no call under test leaves the test running. -/
theorem ComposedPlan.staysRunning
    (operands : ∀ read ∈ plan.kind.reads, StaysRunning (Lower.operand (ρ := ρ) config read))
    (composed : ComposedPlan config config' plan lower lower') (steps : plan.isTestCall = false) :
    StaysRunning lower := by
  cases composed with
  | steps _ composed => exact composed.staysRunning operands
  | leaf _ composed => exact composed.staysRunning (List.forall_mem_nil _)
  | testCall call _ =>
    rw [steps] at call
    cases call
  | unsupported _ => rintro _ _ _ ⟨⟩

/-- A call under test gives no value to its own plan. -/
theorem ComposedPlan.acquires_of_isTestCall (call : plan.isTestCall = true)
    (operands : ∀ read ∈ plan.kind.reads, Acquires roots none (Lower.operand (ρ := ρ) config read))
    (composed : ComposedPlan config config' plan lower lower') : Acquires roots none lower := by
  cases composed with
  | steps made _ =>
    rw [Plan.isTestCall_of_roles? made] at call
    cases call
  | leaf leaf _ =>
    rw [(Plan.roles?_of_isLeaf leaf).2] at call
    cases call
  | testCall _ composed =>
    refine .bind (composed.acquires operands nofun) fun _ => ?_
    rintro _ _ _ ⟨⟩
    exact .of_same rfl rfl
  | unsupported _ => exact .throw

end Plans

namespace Lower

omit [ClassLoading ρ] in
/-- The value of a compiled plan is that of its variable. -/
theorem compiledValue_ok {name : String} {session after : Compilation ρ} {found : Operand}
    (ran : compiledValue name session = .ok found after) :
    session.bindings.isBound name = true ∧ after = session := by
  rw [compiledValue, get_bind] at ran
  cases bound : session.bindings.get? name with
  | some var =>
    rw [bound] at ran
    cases ran
    exact ⟨Option.isSome_iff_exists.mpr ⟨var, bound⟩, rfl⟩
  | none =>
    rw [bound] at ran
    cases ran

/-- A plan that is compiled at most once and is no call under test leaves the test running. -/
theorem once_staysRunning {plan : Plan} (steps : plan.isTestCall = false)
    (operands : ∀ read ∈ plan.kind.reads, StaysRunning (operand (ρ := ρ) config read)) :
    StaysRunning (once (ρ := ρ) config plan.name (lowerKind config plan.name plan.kind)) := by
  intro session result after ran running
  rcases once_ok ran with ⟨-, rfl⟩ | ⟨-, -, inside, lowered, rfl⟩
  · exact running
  · exact (@lowerKind_composed ρ _ config config rfl plan).staysRunning operands steps
      (session.enter plan.name) _ inside lowered running

variable {sharing : Sharing} {graph : PlanGraph}
  (consistent : PlanGraph.ofRoots sharing roots = .ok graph)

include consistent

/-- A plan of a graph has no value when it has been compiled as a call under test. -/
theorem unbound_of_once {plan : Plan} {session after : Compilation ρ} {result : Unit}
    (needed : Needed roots plan) (call : plan.isTestCall = true)
    (unbound : session.bindings.isBound plan.name = false)
    (ran : once config plan.name (lowerKind config plan.name plan.kind) session
      = .ok result after) : after.bindings.isBound plan.name = false := by
  rcases once_ok ran with ⟨-, rfl⟩ | ⟨-, -, inside, lowered, rfl⟩
  · exact unbound
  have acquired := (@lowerKind_composed ρ _ config config rfl plan).acquires_of_isTestCall call
    (fun read member => operand_acquires read (.root member)) _ _ _ lowered
  by_contra bound
  have bound : inside.bindings.isBound plan.name = true := by
    rw [← Bool.not_eq_false]
    exact bound
  rcases acquired.bound plan.name bound with before | own | apart | null
  · have before : session.bindings.isBound plan.name = true := before
    rw [unbound] at before
    cases before
  · cases own
  · exact apart List.mem_cons_self
  · -- Nothing inside a plan of the graph has the name of the plan, nulls included.
    obtain ⟨null, inside, named, -⟩ := null
    exact needed.name_ne consistent inside named

/-- A plan of a graph that is read leaves the test running. -/
theorem operand_staysRunning (plan : Plan) (needed : Needed roots plan) :
    StaysRunning (operand (ρ := ρ) config plan) := by
  -- The induction is on what a plan reads.
  induction plan using Plan.induction_reads with
  | step plan ih =>
    intro session result after ran running
    by_cases leaf : plan.isLeaf = true
    · rcases operand_of_isLeaf leaf session with ⟨found, read⟩ | ⟨-, value, read⟩
      · rw [read] at ran
        cases ran
        exact running
      · rw [read] at ran
        have composed :=
          (@literalLeaf_composed ρ _ config config plan.name [] value).map Operand.var
        exact composed.staysRunning (List.forall_mem_nil _) _ _ _ ran running
    have steps : plan.isLeaf = false := by simpa using leaf
    rw [operand_of_steps steps, get_bind] at ran
    cases found : session.bindings.get? plan.name with
    | some var =>
      rw [found] at ran
      cases ran
      exact running
    | none =>
      rw [found] at ran
      obtain ⟨_, middle, compiled, ran⟩ := bind_eq_ok_iff.mp ran
      have unbound : session.bindings.isBound plan.name = false := by
        rw [Bindings.isBound, found]
        rfl
      obtain ⟨bound, rfl⟩ := compiledValue_ok ran
      by_cases call : plan.isTestCall = true
      · -- A call under test has no value that could be read.
        rw [unbound_of_once consistent needed call unbound compiled] at bound
        cases bound
      exact once_staysRunning (by simpa using call)
        (fun read member => ih read member (needed.read member)) _ _ _ compiled running

end Lower

end TestPlan
