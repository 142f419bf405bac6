import TestPlan.Demo.Plans
import TestPlan.Proofs.Lowering.ComposedPlan
import TestPlan.Proofs.Lowering.Requests
import TestPlan.Proofs.Lowering.Success
import TestPlan.Proofs.Plan.Nesting

/-! A limit on the nesting of plans only ever adds its own failure. -/

namespace TestPlan

variable {ρ α β : Type}

/-- Inside as many active plans a plan nests deeper than a limit. -/
def Plan.Exceeds (limit depth : Nat) (plan : Plan) : Prop :=
  ∃ levels, plan.Nests levels ∧ limit < depth + levels

/-- A plan that is read is one level deeper than its consumer. -/
theorem Plan.Exceeds.of_read {limit depth : Nat} {plan read : Plan}
    (member : read ∈ plan.kind.reads) (steps : read.isLeaf = false)
    (exceeds : read.Exceeds limit (depth + 1)) : plan.Exceeds limit depth := by
  obtain ⟨levels, nests, deep⟩ := exceeds
  exact ⟨levels + 1, .read member steps nests, by omega⟩

/-- One of some plans is made of steps and nests deeper than a limit. -/
def ReadsTooDeep (limit : Nat) (plans : List Plan) (depth : Nat) : Prop :=
  ∃ plan ∈ plans, plan.isLeaf = false ∧ plan.Exceeds limit depth

/-- A plan that is too deep is too deep among others. -/
theorem ReadsTooDeep.mono {limit depth : Nat} {plans more : List Plan} (inside : plans ⊆ more)
    (deep : ReadsTooDeep limit plans depth) : ReadsTooDeep limit more depth := by
  obtain ⟨plan, member, found⟩ := deep
  exact ⟨plan, inside member, found⟩

/--
A lowering does what it does without a limit, unless some plans are too deep for the limit, and
then it may fail for that. Without a limit it leaves all plans that it enters.
-/
structure Limited (limit : Nat) (deep : Nat → Prop) (step free : Lowering ρ α) : Prop where
  active : ∀ {session result after}, free session = .ok result after →
    after.active = session.active
  agrees : ∀ session, step session = free session ∨
    (∃ after, step session = .error (.depthExceeded limit) after) ∧ deep session.active.length

namespace Limited

variable {limit : Nat} {deep : Nat → Prop}

/-- What is lowered without entering a plan does not depend on the limit. -/
theorem same {step : Lowering ρ α}
    (active : ∀ {session result after}, step session = .ok result after →
      after.active = session.active) : Limited limit deep step step where
  active := active
  agrees _ := .inl rfl

/-- A failure does not depend on the limit. -/
theorem throw {error : CompileError} :
    Limited limit deep (MonadExcept.throw error : Lowering ρ α) (MonadExcept.throw error) :=
  same nofun

/-- A result at hand does not depend on the limit. -/
theorem pure {result : α} :
    Limited limit deep (Pure.pure result : Lowering ρ α) (Pure.pure result) :=
  same fun ran => by cases ran; rfl

/-- Two lowerings in a row are limited by what limits either of them. -/
theorem bind {first free : Lowering ρ α} {next free' : α → Lowering ρ β}
    (limited : Limited limit deep first free)
    (rest : ∀ result, Limited limit deep (next result) (free' result)) :
    Limited limit deep (first >>= next) (free >>= free') where
  active ran := by
    obtain ⟨found, middle, ran, ran'⟩ := bind_eq_ok_iff.mp ran
    exact ((rest found).active ran').trans (limited.active ran)
  agrees session := by
    rcases limited.agrees session with same | ⟨⟨after, failed⟩, deep⟩
    · cases ran : free session with
      | error error after =>
        exact .inl ((bind_of_error (same.trans ran)).trans (bind_of_error ran).symm)
      | ok found middle =>
        rw [bind_of_ok (same.trans ran), bind_of_ok ran, ← limited.active ran]
        -- The second lowering starts inside the same plans.
        exact (rest found).agrees middle
    · exact .inr ⟨⟨after, bind_of_error failed⟩, deep⟩

/-- What a lowering does after looking at the state is limited as it is in every state. -/
theorem get_bind {next free : Compilation ρ → Lowering ρ α}
    (rest : ∀ state, Limited limit deep (next state) (free state)) :
    Limited limit deep (get >>= next) (get >>= free) where
  active {session _ _} ran := (rest session).active ran
  agrees session := (rest session).agrees session

/-- What is limited by some plans is limited by more plans. -/
theorem mono {step free : Lowering ρ α} {deep' : Nat → Prop}
    (limited : Limited limit deep step free) (weaker : ∀ depth, deep depth → deep' depth) :
    Limited limit deep' step free where
  active := limited.active
  agrees session := (limited.agrees session).imp_right fun ⟨failed, deep⟩ => ⟨failed, weaker _ deep⟩

end Limited

variable [ClassLoading ρ]

section Steps

variable {config config' : CompilerConfig} {limit : Nat} {reads : List Plan}
  (operands : ∀ plan ∈ reads, Limited limit (ReadsTooDeep limit reads)
    (Lower.operand (ρ := ρ) config plan) (Lower.operand config' plan))

include operands

/-- A lowering is limited by the plans that it reads. -/
theorem Composed.limited {owner : String} {role : Role} {step free : Lowering ρ α}
    (composed : Composed config config' owner reads role step free) :
    Limited limit (ReadsTooDeep limit reads) step free := by
  -- Only the plans that are read look at the limit, and only they enter plans.
  induction composed with
  | pure result => exact .pure
  | throw _ => exact .throw
  | resolve _ =>
    refine .same fun ran => ?_
    obtain ⟨loader, _, rfl⟩ := Lower.resolve_ok ran
    rfl
  | inspect _ _ _ ih => exact .get_bind fun session => ih session.test
  | operand member => exact operands _ member
  | emit statement =>
    refine .same fun ran => ?_
    obtain ⟨_, _, rfl⟩ := Lower.emit_ok ran
    rfl
  | temporary type build =>
    refine .same fun ran => ?_
    obtain ⟨_, _, _, rfl⟩ := Lower.temporary_ok ran
    rfl
  | ownerVar =>
    refine .same fun ran => ?_
    obtain ⟨_, rfl⟩ := Lower.ownerVar_ok ran
    rfl
  | define defines =>
    refine .same fun ran => ?_
    obtain ⟨_, _, _, rfl⟩ := Lower.define_ok defines ran
    rfl
  | ensureUnbound _ ih =>
    refine .bind (.same fun ran => ?_) ih
    obtain ⟨_, rfl⟩ := Lower.ensureUnbound_ok ran
    rfl
  | before _ _ ih ih' | after _ _ ih ih' => exact .bind ih ih'

/-- Steps are limited by the plans that they read. -/
theorem ComposedSteps.limited {owner : String} {roles : List Role} {steps free : Lowering ρ Unit}
    (composed : ComposedSteps config config' owner reads roles steps free) :
    Limited limit (ReadsTooDeep limit reads) steps free := by
  induction composed with
  | nil => exact .pure
  | cons first _ ih => exact .bind (first.limited operands) fun _ => ih

end Steps

/-- A lowering that reads no plans is not limited. -/
theorem Composed.unlimited {config config' : CompilerConfig} {limit : Nat} {deep : Nat → Prop}
    {owner : String} {role : Role} {step free : Lowering ρ α}
    (composed : Composed config config' owner [] role step free) : Limited limit deep step free :=
  (composed.limited (List.forall_mem_nil _)).mono fun _ ⟨_, member, _⟩ => nomatch member

/-- A plan that is lowered is limited by the plans that it reads. -/
theorem ComposedPlan.limited {config config' : CompilerConfig} {limit : Nat} {plan : Plan}
    (operands : ∀ read ∈ plan.kind.reads, Limited limit (ReadsTooDeep limit plan.kind.reads)
      (Lower.operand (ρ := ρ) config read) (Lower.operand config' read))
    {lower free : Lowering ρ Unit} (composed : ComposedPlan config config' plan lower free) :
    Limited limit (ReadsTooDeep limit plan.kind.reads) lower free := by
  cases composed with
  | steps _ composed => exact composed.limited operands
  | leaf _ composed => exact composed.unlimited
  | testCall _ composed =>
    exact .bind (composed.limited operands) fun _ => .same fun ran => by cases ran; rfl
  | unsupported _ => exact .throw

namespace Lower

section Once

variable (config : CompilerConfig) {limit : UInt64} {loose : Option UInt64} {plan : Plan}

omit [ClassLoading ρ] in
/-- A plan that is refused by the looser limit is refused by the limit as well. -/
theorem checkNesting_limited (looser : ∀ larger ∈ loose, limit ≤ larger) (name : String) :
    Limited limit.toNat (limit.toNat ≤ ·)
      (checkNesting (ρ := ρ) { config with maxDepth := some limit } name)
      (checkNesting { config with maxDepth := loose } name) where
  active ran := by
    obtain ⟨_, rfl⟩ := checkNesting_ok ran
    rfl
  agrees session := by
    rw [checkNesting, checkNesting, get_bind, get_bind]
    dsimp only
    split
    · -- A plan that is met again is refused before its depth is looked at.
      exact .inl rfl
    by_cases deep : limit.toNat ≤ session.active.length
    · rw [if_pos deep]
      exact .inr ⟨⟨session, rfl⟩, deep⟩
    · rw [if_neg deep]
      cases loose with
      | none => exact .inl rfl
      | some larger =>
        have looser := UInt64.le_iff_toNat_le.mp (looser larger rfl)
        have shallow : ¬ larger.toNat ≤ session.active.length := by omega
        exact .inl (by simp only [if_neg shallow])

omit [ClassLoading ρ] in
/-- Inside a plan there is one more active plan. -/
theorem within_limited {deep : Nat → Prop} {lower free : Lowering ρ Unit}
    (limited : Limited limit.toNat deep lower free) (name : String) :
    Limited limit.toNat (fun depth => deep (depth + 1)) (within name lower) (within name free) where
  active ran := by
    obtain ⟨inside, lowered, rfl⟩ := within_ok ran
    exact congrArg List.tail (limited.active lowered)
  agrees session := by
    unfold within
    -- The body runs inside the plan, where the depth is one more.
    rcases limited.agrees (session.enter name) with same | ⟨⟨after, failed⟩, deep⟩
    · rw [same]
      exact .inl rfl
    · rw [failed]
      exact .inr ⟨⟨_, rfl⟩, deep⟩

omit [ClassLoading ρ] in
/-- A plan that is compiled at most once is limited by itself. -/
theorem once_limited (looser : ∀ larger ∈ loose, limit ≤ larger) {lower free : Lowering ρ Unit}
    (limited : Limited limit.toNat (ReadsTooDeep limit.toNat plan.kind.reads) lower free) :
    Limited limit.toNat (plan.Exceeds limit.toNat)
      (once { config with maxDepth := some limit } plan.name lower)
      (once { config with maxDepth := loose } plan.name free) := by
  refine .get_bind fun state => ?_
  split
  · exact .pure
  -- The plan is one level itself, and what it reads is inside.
  refine .bind ((checkNesting_limited config looser plan.name).mono fun depth deep => ?_)
    fun _ => ?_
  · exact ⟨1, .self plan, Nat.lt_succ_of_le deep⟩
  refine .bind ((within_limited limited plan.name).mono fun depth deep => ?_) fun _ => ?_
  · obtain ⟨read, member, steps, exceeds⟩ := deep
    exact exceeds.of_read member steps
  · exact .same fun ran => by cases ran; rfl

end Once

variable (config : CompilerConfig) {limit : UInt64} {loose : Option UInt64}

/-- A literal or text that is read is not limited. -/
theorem operandLeaf_limited {deep : Nat → Prop} {plan : Plan} (leaf : plan.isLeaf = true) :
    Limited limit.toNat deep (operand (ρ := ρ) { config with maxDepth := some limit } plan)
      (operand { config with maxDepth := loose } plan) := by
  -- Even a null that gets a variable reads no plan.
  have null : ∀ value, Limited limit.toNat deep
      (Operand.var <$> literalLeaf (ρ := ρ) plan.name value)
      (Operand.var <$> literalLeaf plan.name value) := fun value =>
    ((@literalLeaf_composed ρ _ config config plan.name [] value).map Operand.var).unlimited
  constructor
  · intro session _ _ ran
    rcases operand_of_isLeaf leaf session with ⟨found, read⟩ | ⟨_, value, read⟩
    · rw [read] at ran
      cases ran
      rfl
    · exact (null value).active ((read _).symm.trans ran)
  · intro session
    rcases operand_of_isLeaf leaf session with ⟨found, read⟩ | ⟨_, value, read⟩
    · exact .inl ((read _).trans (read _).symm)
    · exact .inl ((read _).trans (read _).symm)

omit [ClassLoading ρ] in
/-- The value of a compiled plan does not depend on a limit. -/
theorem compiledValue_limited {deep : Nat → Prop} (name : String) :
    Limited limit.toNat deep (compiledValue (ρ := ρ) name) (compiledValue name) := by
  refine .get_bind fun state => ?_
  split
  · exact .pure
  · exact .throw

variable (looser : ∀ larger ∈ loose, limit ≤ larger)

include looser

/-- A plan that is read is limited by itself, unless it is a literal or text. -/
theorem operand_limited (plan : Plan) :
    Limited limit.toNat (ReadsTooDeep limit.toNat [plan])
      (operand (ρ := ρ) { config with maxDepth := some limit } plan)
      (operand { config with maxDepth := loose } plan) := by
  -- The induction is on what a plan reads.
  induction plan using Plan.induction_reads with
  | step plan ih =>
    by_cases leaf : plan.isLeaf = true
    · exact operandLeaf_limited config leaf
    have steps : plan.isLeaf = false := by simpa using leaf
    have body := ComposedPlan.limited
      (fun read member => (ih read member).mono fun _ => .mono (by simpa using member))
      (lowerKind_composed (by rfl) plan)
    rw [operand_of_steps steps, operand_of_steps steps]
    refine .get_bind fun state => ?_
    split
    · exact .pure
    refine .bind ((once_limited config looser body).mono fun depth exceeds => ?_) fun _ =>
      compiledValue_limited plan.name
    exact ⟨plan, List.mem_singleton_self plan, steps, exceeds⟩

/-- What some plans read is limited by them. -/
theorem operands_limited (plans : List Plan) (plan : Plan) (member : plan ∈ plans) :
    Limited limit.toNat (ReadsTooDeep limit.toNat plans)
      (operand (ρ := ρ) { config with maxDepth := some limit } plan)
      (operand { config with maxDepth := loose } plan) :=
  (operand_limited config looser plan).mono fun _ => .mono (by simpa using member)

/-- A root that is compiled is limited by itself. -/
theorem compile_limited (plan : Plan) :
    Limited limit.toNat (plan.Exceeds limit.toNat)
      (compile (ρ := ρ) { config with maxDepth := some limit } plan)
      (compile { config with maxDepth := loose } plan) :=
  once_limited config looser
    ((lowerKind_composed (by rfl) plan).limited (operands_limited config looser plan.kind.reads))

/-- Roots that are compiled one after the other are limited by each of them. -/
theorem forM_compile_limited (plans : List Plan) :
    Limited limit.toNat (fun depth => ∃ plan ∈ plans, plan.Exceeds limit.toNat depth)
      (plans.forM (compile (ρ := ρ) { config with maxDepth := some limit }))
      (plans.forM (compile { config with maxDepth := loose })) := by
  induction plans with
  | nil => exact .pure
  | cons plan rest ih =>
    refine .bind ((compile_limited config looser plan).mono fun _ exceeds => ?_) fun _ =>
      ih.mono fun _ ⟨root, member, exceeds⟩ => ⟨root, List.mem_cons_of_mem _ member, exceeds⟩
    exact ⟨plan, List.mem_cons_self, exceeds⟩

/-- A test that is compiled is limited by its roots. -/
theorem compileTest_limited (sharing : Sharing) (method : MethodReference)
    (parameters : Parameters) :
    Limited limit.toNat (fun depth => ∃ root ∈ parameters.roots, root.Exceeds limit.toNat depth)
      (compileTest sharing (ρ := ρ) { config with maxDepth := some limit } method parameters)
      (compileTest sharing { config with maxDepth := loose } method parameters) := by
  -- Whether names are checked does not depend on the limit.
  refine .bind (.same fun ran => ?_) fun _ => ?_
  · obtain ⟨_, rfl⟩ := ofExcept_ok ran
    rfl
  refine .bind (forM_compile_limited config looser _) fun _ => ?_
  have call : ComposedPlan (ρ := ρ) { config with maxDepth := some limit }
      { config with maxDepth := loose } (.mk "" (.testCall (parameters.testCall method))) _ _ :=
    lowerKind_composed (by rfl) _
  refine .bind ((call.limited (operands_limited config looser _)).mono fun depth deep => ?_)
    fun _ => .get_bind fun _ => .pure
  -- The call reads roots, and inside no more plans than they were compiled in.
  obtain ⟨root, member, _, exceeds⟩ := deep
  exact ⟨root, List.mem_append_left _ member, exceeds⟩

end Lower

/--
A limit on the nesting of plans adds its own failure to what compiling a test without a limit
returns, and nothing else; a larger limit changes nothing once a test has been compiled, and a
limit that is as large as the roots are deep is never exceeded.
-/
theorem compileTest_maxDepth (sharing : Sharing) (loader : ρ) (config : CompilerConfig)
    (method : MethodReference) (parameters : Parameters) (limit : UInt64) :
    let run := fun maxDepth =>
      Lower.compileTest sharing { config with maxDepth } method parameters { loader }
    (run (some limit) = run none ∨
        ∃ after, run (some limit) = .error (.depthExceeded limit.toNat) after) ∧
      (∀ test after larger, run (some limit) = .ok test after → limit ≤ larger →
        run (some larger) = .ok test after) ∧
      ((∀ root ∈ parameters.roots, ∀ levels, root.Nests levels → levels ≤ limit.toNat) →
        ∀ bound after, run (some limit) ≠ .error (.depthExceeded bound) after) := by
  intro run
  have limited : ∀ loose : Option UInt64, (∀ larger ∈ loose, limit ≤ larger) →
      run (some limit) = run loose ∨
        (∃ after, run (some limit) = .error (.depthExceeded limit.toNat) after) ∧
          ∃ root ∈ parameters.roots, root.Exceeds limit.toNat 0 := fun loose looser =>
    (Lower.compileTest_limited config looser sharing method parameters).agrees { loader }
  refine ⟨(limited none nofun).imp_right And.left, fun test after larger ran le => ?_, ?_⟩
  · -- What has succeeded is not what the limit adds, so both runs are one.
    rcases limited (some larger) (by rintro _ ⟨⟩; exact le) with same | ⟨⟨_, failed⟩, _⟩
    · exact same.symm.trans ran
    · cases ran.symm.trans failed
  · intro enough bound after failed
    rcases limited none nofun with same | ⟨_, root, member, levels, nests, deep⟩
    · -- Without a limit nothing is blamed on one.
      have blamed := Lower.compileTest_ensures sharing { config with maxDepth := none } method
        parameters { loader } (.initial loader)
      have failed : Lower.compileTest sharing { config with maxDepth := none } method parameters
          { loader } = .error (.depthExceeded bound) after := same.symm.trans failed
      rw [failed] at blamed
      obtain ⟨_, ⟨_, limited, _⟩, _⟩ := blamed
      cases limited
    · have shallow := enough root member levels nests
      omega

/-- The distance of two points, the second of which is made from another point. -/
def Demo.nested : Parameters where
  receiver := some (pointAt "p" 1 2)
  arguments := [pointFrom "q" (pointAt "r" 3 4) (int "y" 5)]

example : failure? (Lower.compileTest .none { maxDepth := some 1 } Demo.pointDistance Demo.nested)
    ({ loader := Demo.loader [] } : Session) = some (.depthExceeded 1) := by decide +kernel

end TestPlan
