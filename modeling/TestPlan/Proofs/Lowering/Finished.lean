import TestPlan.Proofs.Lowering.ComposedPlan
import TestPlan.Proofs.Lowering.Faithful
import TestPlan.Proofs.Lowering.Honest
import TestPlan.Proofs.Plan.Consistent

/-!
Plans that form a graph keep names honest when they are compiled to the end, each inside the plans
that read it and at most once.
-/

namespace TestPlan

variable {ρ : Type} [ClassLoading ρ] {roots : List Plan} {watched : List String} {owner : String}
  {config : CompilerConfig}

/-! ### The steps of a plan -/

section Steps

variable {plan : Plan} {outer : List String} {session after : Compilation ρ}

omit [ClassLoading ρ]

/-- A plan has a value exactly if one of the steps done so far makes it, and no two do. -/
structure Given (owner : String) (session : Compilation ρ) (done : List Role) : Prop where
  bound : session.bindings.isBound owner = true ↔ .produces ∈ done
  once : done.count .produces ≤ 1

/-- One more step makes the value of its plan if that is its role. -/
theorem Given.step {role : Role} {done : List Role} (given : Given owner session done)
    (acted : Acted roots watched owner role session after) (watches : owner ∈ watched) :
    Given owner after (done ++ [role]) := by
  by_cases gives : role = .produces
  · -- The plan had no value, so no step before has made it.
    obtain ⟨unbound, bound⟩ := acted.gave gives
    have first : .produces ∉ done := fun member => by
      rw [given.bound.mpr member] at unbound
      cases unbound
    constructor
    · simp [bound, gives]
    · simp [gives, List.count_eq_zero.mpr first]
  · have same : after.bindings.isBound owner = session.bindings.isBound owner :=
      congrArg Option.isSome (acted.others owner watches fun gives' => absurd gives' gives)
    constructor
    · rw [same, given.bound]
      simp [Ne.symm gives]
    · simpa [gives] using given.once

/-- When a step of a plan fails for the name of the plan, the steps up to it are why. -/
theorem Refused.isJustified {role : Role} {done rest : List Role} {error : CompileError}
    (refused : Refused roots plan.name session role error) (needed : Needed roots plan)
    (made : plan.roles? = some (done ++ role :: rest)) (given : Given plan.name session done) :
    Justified roots error := by
  cases refused with
  | justified justified => exact justified
  | produces bound =>
    -- One of the steps done so far has made the value that this one would make again.
    have before := List.count_pos_iff.mpr (given.bound.mp bound)
    refine ⟨plan, needed, rfl, _, made, ?_⟩
    rw [List.count_append, List.count_cons_self]
    omega
  | uses unbound =>
    -- None of the steps done so far has made a value.
    refine ⟨plan, needed, rfl, done, rest, made, fun member => ?_⟩
    rw [given.bound.mpr member] at unbound
    cases unbound

/-- What the steps of a plan that is being compiled have done to honest names. -/
structure Progress (roots : List Plan) (plan : Plan) (outer : List String)
    (session after : Compilation ρ) : Prop where
  honest : Honest roots after
  active : after.active = session.active
  others : ∀ name ∈ outer, name ≠ plan.name →
    after.bindings.get? name = session.bindings.get? name

/-- Progress may go on. -/
theorem Progress.trans {middle : Compilation ρ} (first : Progress roots plan outer session middle)
    (second : Progress roots plan outer middle after) :
    Progress roots plan outer session after where
  honest := second.honest
  active := second.active.trans first.active
  others name member other :=
    (second.others name member other).trans (first.others name member other)

/-- A step makes progress. -/
theorem Acted.progress {role : Role}
    (acted : Acted roots (plan.name :: outer) plan.name role session after) :
    Progress roots plan outer session after where
  honest := acted.honest
  active := acted.active
  others name member other := acted.others name (List.mem_cons_of_mem _ member) fun _ => other

end Steps

/-- The steps of a plan that is being compiled make its value once, or fail for good reasons. -/
theorem ComposedSteps.acts {plan : Plan} {roles : List Role} {outer : List String}
    (done : List Role) {reads : List Plan} {lower lower' : Lowering ρ Unit}
    (needed : Needed roots plan)
    (operands : ∀ read ∈ reads, Acts roots (plan.name :: outer) (plan.name :: outer) plan.name
      .neither (Lower.operand (ρ := ρ) config read))
    (composed : ComposedSteps config config plan.name reads roles lower lower')
    (made : plan.roles? = some (done ++ roles)) {session : Compilation ρ}
    (honest : Honest roots session) (inside : session.active = plan.name :: outer)
    (given : Given plan.name session done) :
    match lower session with
    | .ok _ after => Progress roots plan outer session after ∧ Given plan.name after (done ++ roles)
    | .error error _ => Justified roots error := by
  -- The induction is on the steps that are left, after those done so far.
  induction composed generalizing done session with
  | nil => exact ⟨⟨honest, rfl, fun _ _ _ => rfl⟩, by rwa [List.append_nil]⟩
  | @cons role roles first _ rest _ composed _ ih =>
    have acted := composed.acts (fun _ => ⟨List.mem_cons_self, .inl List.mem_cons_self⟩) operands
      session honest inside
    cases ran : first session with
    | error error after =>
      rw [ran] at acted
      rw [bind_of_error ran]
      exact acted.isJustified needed made given
    | ok result middle =>
      rw [ran] at acted
      rw [bind_of_ok ran]
      rw [List.append_cons] at made ⊢
      have rest := ih _ made acted.honest (acted.active.trans inside)
        (given.step acted List.mem_cons_self)
      split at rest
      · exact ⟨acted.progress.trans rest.1, rest.2⟩
      · exact rest

section Plans

variable {plan : Plan} {outer : List String} {session : Compilation ρ}

omit [ClassLoading ρ] in
/-- The call under test may be marked as appended. -/
theorem Honest.terminate (honest : Honest roots session) :
    Honest roots { session with terminated := true } where
  completed name member := by
    obtain ⟨plan, needed, named, finished⟩ := honest.completed name member
    exact ⟨plan, needed, named, finished.mono (fun _ => id) fun _ => rfl⟩
  bound := honest.bound

omit [ClassLoading ρ] in
/-- A plan with all its steps done is finished. -/
theorem Given.finished {roles : List Role} (given : Given plan.name session roles)
    (made : plan.roles? = some roles) :
    Finished session.bindings session.terminated plan where
  once := by
    rintro ⟨roles', made', twice⟩
    rw [made] at made'
    cases made'
    have once := given.once
    omega
  value := by
    by_cases produces : .produces ∈ roles
    · exact .inl (given.bound.mpr produces)
    · exact .inr (.inr ⟨roles, made, produces⟩)
  terminated call := by
    rw [Plan.isTestCall_of_roles? made] at call
    cases call

/-- A plan that is compiled to the end is finished, or fails for good reasons. -/
theorem ComposedPlan.finishes (needed : Needed roots plan)
    (operands : ∀ read ∈ plan.kind.reads, Acts roots (plan.name :: outer) (plan.name :: outer)
      plan.name .neither (Lower.operand (ρ := ρ) config read))
    {lower lower' : Lowering ρ Unit} (composed : ComposedPlan config config plan lower lower')
    (honest : Honest roots session) (inside : session.active = plan.name :: outer)
    (unbound : session.bindings.isBound plan.name = false) :
    match lower session with
    | .ok _ after => Progress roots plan outer session after ∧
        Finished after.bindings after.terminated plan
    | .error error _ => Justified roots error := by
  have own : plan.name ∈ plan.name :: outer := List.mem_cons_self
  cases composed with
  | steps made composed =>
    -- No step is done yet, and the plan has no value.
    have run := composed.acts [] needed operands made honest inside ⟨by simp [unbound], by simp⟩
    split at run
    · exact ⟨run.1, run.2.finished made⟩
    · exact run
  | leaf leaf composed =>
    have acted := composed.acts (fun _ => ⟨own, .inl own⟩) (List.forall_mem_nil _) session honest
      inside
    obtain ⟨none, noCall⟩ := Plan.roles?_of_isLeaf leaf
    cases ran : lower session with
    | ok _ after =>
      rw [ran] at acted
      exact ⟨acted.progress, Plan.not_producesTwice_of_roles? none, .inl (acted.gave rfl).2,
        fun call => by rw [noCall] at call; cases call⟩
    | error error after =>
      rw [ran] at acted
      -- The plan had no value, so it is not refused for having one.
      obtain justified | bound := acted
      · exact justified
      · rw [unbound] at bound
        cases bound
  | @testCall lower _ call composed =>
    have acted := composed.acts (absurd rfl) operands session honest inside
    cases ran : lower session with
    | ok result after =>
      rw [ran] at acted
      rw [bind_of_ok ran]
      exact ⟨{ acted.progress with honest := acted.honest.terminate },
        Plan.not_producesTwice_of_roles? (Plan.roles?_of_isTestCall call), .inr (.inl call),
        fun _ => rfl⟩
    | error error after =>
      rw [ran] at acted
      rw [bind_of_error ran]
      obtain justified | _ | _ := acted
      exact justified
  | unsupported other => exact .of_not_ofName other

/-! ### Compiling a plan at most once -/

/-- No plan that a plan needs is being compiled. -/
def Clear (active : List String) (plan : Plan) : Prop :=
  ∀ inner, Needed [plan] inner → inner.name ∉ active

/-- When nothing is being compiled, every plan is clear. -/
theorem Clear.nil (plan : Plan) : Clear [] plan :=
  fun _ _ => List.not_mem_nil

/-- What a plan needs is clear of the plan itself and of the plans around it. -/
theorem Clear.read {sharing : Sharing} {roots : List Plan} {graph : PlanGraph}
    (consistent : PlanGraph.ofRoots sharing roots = .ok graph) (needed : Needed roots plan)
    (clear : Clear outer plan) {read : Plan} (member : read ∈ plan.kind.reads) :
    Clear (plan.name :: outer) read := by
  intro inner inside
  have inside : Needed plan.kind.reads inner :=
    inside.trans fun root same => by
      cases List.mem_singleton.mp same
      exact .root member
  rw [List.mem_cons, not_or]
  refine ⟨needed.name_ne consistent inside, clear inner (inside.trans fun root read => ?_)⟩
  exact .read (.root (List.mem_singleton_self plan)) read

omit [ClassLoading ρ] in
/-- A plan that has been compiled may be recorded and left. -/
theorem Honest.record {inside : Compilation ρ} (honest : Honest roots inside)
    (needed : Needed roots plan) (innermost : inside.active = plan.name :: outer)
    (finished : Finished inside.bindings inside.terminated plan) :
    Honest roots (inside.recorded plan.name).leave where
  completed name member := by
    -- Recording the plan gives no plan a variable.
    rcases List.mem_cons.mp member with rfl | before
    · exact ⟨plan, needed, rfl, finished.mono (fun _ => id) id⟩
    · obtain ⟨other, needed', named, finished'⟩ := honest.completed name before
      exact ⟨other, needed', named, finished'.mono (fun _ => id) id⟩
  bound name bound := by
    have leaves : (inside.recorded plan.name).leave.active = outer :=
      congrArg List.tail innermost
    rw [leaves]
    rcases honest.bound name bound with entered | before | leaf
    · rw [innermost] at entered
      rcases List.mem_cons.mp entered with rfl | around
      · exact .inr (.inl List.mem_cons_self)
      · exact .inl around
    · exact .inr (.inl (List.mem_cons_of_mem _ before))
    · exact .inr (.inr leaf)

/-- A plan that is not compiled has no variable. -/
theorem Bindings.isBound_of_isCompiled {bindings : Bindings} {name : String}
    (uncompiled : bindings.isCompiled name = false) : bindings.isBound name = false :=
  (Bool.or_eq_false_iff.mp uncompiled).2

/-- A plan that is compiled at most once leaves all active plans as they were. -/
theorem Lower.once_acts (needed : Needed roots plan)
    (operands : ∀ read ∈ plan.kind.reads, Acts roots (plan.name :: outer) (plan.name :: outer)
      plan.name .neither (Lower.operand (ρ := ρ) config read)) (clear : Clear outer plan) :
    Acts roots outer outer owner .neither
      (Lower.once (ρ := ρ) config plan.name (Lower.lowerKind config plan.name plan.kind)) := by
  intro session honest inside
  have outside : plan.name ∉ outer := clear plan (.root (List.mem_singleton_self plan))
  have composed := @lowerKind_composed ρ _ config config rfl plan
  have entered : (session.enter plan.name).active = plan.name :: outer :=
    congrArg (plan.name :: ·) inside
  cases ran : once config plan.name (lowerKind config plan.name plan.kind) session with
  | ok result after =>
    rcases once_ok ran with ⟨_, rfl⟩ | ⟨uncompiled, _, middle, lowered, rfl⟩
    · exact .of_same nofun honest rfl rfl rfl
    have run := composed.finishes needed operands (honest.enter plan.name) entered
      (Bindings.isBound_of_isCompiled uncompiled)
    rw [lowered] at run
    obtain ⟨progress, finished⟩ := run
    have innermost := progress.active.trans entered
    exact {
      honest := progress.honest.record needed innermost finished
      active := (congrArg List.tail innermost).trans inside.symm
      others := fun name member _ => progress.others name member fun same => outside (same ▸ member)
      gave := nofun }
  | error error after =>
    rw [once, get_bind] at ran
    split at ran
    · cases ran
    rename_i uncompiled
    have uncompiled : session.bindings.isCompiled plan.name = false := by simpa using uncompiled
    have run := composed.finishes needed operands (honest.enter plan.name) entered
      (Bindings.isBound_of_isCompiled uncompiled)
    refine .justified ?_
    rcases bind_eq_error_iff.mp ran with refused | ⟨_, _, checked, rest⟩
    · rcases checkNesting_error refused with active | other
      · exact absurd (inside ▸ active) outside
      · exact .of_not_ofName other
    obtain ⟨_, rfl⟩ := checkNesting_ok checked
    rcases bind_eq_error_iff.mp rest with failed | ⟨_, _, _, ⟨⟩⟩
    -- A failure inside the plan is the failure of its body.
    unfold within at failed
    split at failed
    · cases failed
    · rename_i lowered
      cases failed
      rw [lowered] at run
      exact run

omit [ClassLoading ρ] in
/-- A plan that has been compiled without getting a variable makes no value. -/
theorem Honest.valueless {name : String} (honest : Honest roots session)
    (compiled : session.bindings.isCompiled name = true)
    (absent : session.bindings.get? name = none) :
    ∃ plan, Needed roots plan ∧ plan.name = name ∧ plan.Valueless := by
  have unbound : session.bindings.isBound name = false := by rw [Bindings.isBound, absent]; rfl
  rw [Bindings.isCompiled, unbound, Bool.or_false, List.contains_iff_mem] at compiled
  obtain ⟨plan, needed, rfl, finished⟩ := honest.completed name compiled
  refine ⟨plan, needed, rfl, finished.value.resolve_left fun bound => ?_⟩
  rw [unbound] at bound
  cases bound

namespace Lower

variable {sharing : Sharing} {graph : PlanGraph}
  (consistent : PlanGraph.ofRoots sharing roots = .ok graph)

omit [ClassLoading ρ] in
/-- A plan that has been compiled is read as its variable, and must have one. -/
theorem compiledValue_acts (honest : Honest roots session)
    (compiled : session.bindings.isCompiled plan.name = true) :
    match compiledValue plan.name session with
    | .ok _ after => after = session
    | .error error _ => Justified roots error := by
  rw [compiledValue, get_bind]
  cases found : session.bindings.get? plan.name with
  | some var => rfl
  | none => exact honest.valueless compiled found

/-- A literal or text that is read leaves all active plans as they were. -/
theorem operandLeaf_acts (leaf : plan.isLeaf = true) (needed : Needed roots plan)
    (clear : Clear outer plan) (owner : String) :
    Acts roots outer outer owner .neither (operand (ρ := ρ) config plan) := by
  intro session honest inside
  rcases operand_of_isLeaf leaf session with ⟨found, read⟩ | ⟨unbound, value, read⟩
  · rw [read]
    exact .of_same nofun honest rfl rfl rfl
  -- A null gets a variable, which is not that of an active plan.
  have composed := (@literalLeaf_composed ρ _ config config plan.name [] value).map Operand.var
  have own : plan.name ∈ plan.name :: outer := List.mem_cons_self
  have acted := composed.acts (fun _ => ⟨own, .inr ⟨plan, needed, rfl, leaf⟩⟩)
    (List.forall_mem_nil _) session honest inside
  cases ran : (Operand.var <$> literalLeaf plan.name value) session with
  | ok _ after =>
    rw [ran] at acted
    rw [read, ran]
    have others : ∀ name ∈ outer, name ≠ plan.name := fun name member same =>
      clear plan (.root (List.mem_singleton_self plan)) (same ▸ member)
    exact {
      honest := acted.honest
      active := acted.active
      others := fun name member _ =>
        acted.others name (List.mem_cons_of_mem _ member) fun _ => others name member
      gave := nofun }
  | error error after =>
    rw [ran] at acted
    rw [read, ran]
    -- The null had no variable before, so it is not refused for having one.
    obtain justified | bound := acted
    · exact .justified justified
    · rw [unbound] at bound
      cases bound

include consistent

/-- A plan that is read leaves all active plans as they were. -/
theorem operand_acts (plan : Plan) (needed : Needed roots plan) {outer : List String}
    (clear : Clear outer plan) (owner : String) :
    Acts roots outer outer owner .neither (operand (ρ := ρ) config plan) := by
  -- The induction is on what a plan reads, inside one more active plan.
  induction plan using Plan.induction_reads generalizing outer owner with
  | step plan ih =>
    by_cases leaf : plan.isLeaf = true
    · exact operandLeaf_acts leaf needed clear owner
    have steps : plan.isLeaf = false := by simpa using leaf
    have operands : ∀ read ∈ plan.kind.reads, Acts roots (plan.name :: outer)
        (plan.name :: outer) plan.name .neither (operand (ρ := ρ) config read) :=
      fun read member =>
        ih read member (needed.read member) (clear.read consistent needed member) plan.name
    intro session honest inside
    rw [operand_of_steps steps, get_bind]
    cases found : session.bindings.get? plan.name with
    | some var => exact .of_same nofun honest rfl rfl rfl
    | none =>
      have compiles : Acts roots outer outer owner .neither
          (once config plan.name (lowerKind (ρ := ρ) config plan.name plan.kind)) :=
        once_acts needed operands clear
      have acted := compiles session honest inside
      dsimp only
      cases ran : once config plan.name (lowerKind config plan.name plan.kind) session with
      | error error after =>
        rw [ran] at acted
        rw [bind_of_error ran]
        exact acted
      | ok result middle =>
        rw [ran] at acted
        rw [bind_of_ok ran]
        have value := compiledValue_acts acted.honest (isCompiled_of_once ran)
        cases read : compiledValue plan.name middle with
        | ok _ after =>
          rw [read] at value
          exact value ▸ acted
        | error error after =>
          rw [read] at value
          exact .justified value

/-- A root that is compiled keeps names honest. -/
theorem compile_acts (root : plan ∈ roots) (owner : String) :
    Acts roots [] [] owner .neither (compile (ρ := ρ) config plan) :=
  once_acts (.root root)
    (fun read member => operand_acts consistent read ((Needed.root root).read member)
      ((Clear.nil plan).read consistent (.root root) member) plan.name) (.nil plan)

/-- Roots that are compiled one after the other keep names honest. -/
theorem forM_compile_acts (owner : String) :
    ∀ plans ⊆ roots, Acts roots [] [] owner .neither (plans.forM (compile (ρ := ρ) config))
  | [], _ => fun _ honest _ => .of_same nofun honest rfl rfl rfl
  | _ :: rest, inside =>
    .before (absurd rfl) (compile_acts consistent (inside List.mem_cons_self) owner) fun _ =>
      forM_compile_acts owner rest (List.subset_of_cons_subset inside)

/-- The call under test keeps names honest. -/
theorem lowerTestCall_acts {call : TestCall} (inside : call.operands ⊆ roots) :
    Acts roots [] [] "" .neither (lowerTestCall (ρ := ρ) config call) := by
  obtain ⟨method, receiver, args⟩ := call
  have composed := @invokeTest_composed ρ _ config config "" _ method receiver args fun _ => id
  refine .before (absurd rfl) (composed.acts (absurd rfl) fun read member =>
    operand_acts consistent read (.root (inside member)) (.nil read) "") fun _ => ?_
  exact fun _ honest _ => ⟨honest.terminate, rfl, fun _ _ _ => rfl, nofun⟩

end Lower

end Plans

end TestPlan
