import TestPlan.Lowering.Compile
import TestPlan.Proofs.Lowering.Ensures

/-! What the steps that every lowering is made of have done when they succeed. -/

namespace TestPlan

variable {ρ α : Type} {session after : Compilation ρ}

namespace Lower

/-- A lookup that succeeds has found something. -/
theorem resolve_ok {lookup : Lookup ρ α} {found : α}
    (ran : resolve lookup session = .ok found after) :
    ∃ loader, lookup session.loader = .ok found loader ∧ after = { session with loader } := by
  unfold resolve at ran
  split at ran
  · rename_i found' loader looked
    cases ran
    exact ⟨loader, looked, rfl⟩
  · cases ran

/-- A result that is returned is no failure. -/
theorem ofExcept_ok {result : Except CompileError α} {found : α}
    (ran : Lower.ofExcept result session = .ok found after) :
    result = .ok found ∧ after = session := by
  cases result with
  | ok _ => cases ran; exact ⟨rfl, rfl⟩
  | error _ => cases ran

/-- A plan that passes has no variable. -/
theorem ensureUnbound_ok {owner : String} {result : Unit}
    (ran : ensureUnbound owner session = .ok result after) :
    session.bindings.isBound owner = false ∧ after = session := by
  rw [ensureUnbound, get_bind] at ran
  split at ran
  · cases ran
  · rename_i unbound
    cases ran
    exact ⟨by simpa using unbound, rfl⟩

/-- The variable of the plan that is worked on is bound to it. -/
theorem ownerVar_ok {owner : String} {var : Var} (ran : ownerVar owner session = .ok var after) :
    session.bindings.get? owner = some var ∧ after = session := by
  rw [ownerVar, get_bind] at ran
  cases found : session.bindings.get? owner with
  | none =>
    rw [found] at ran
    cases ran
  | some bound =>
    rw [found] at ran
    cases ran
    exact ⟨rfl, rfl⟩

/-- A statement is taken by a test that is running and accepts it. -/
theorem emit_ok {statement : Statement} {result : Unit}
    (ran : emit statement session = .ok result after) :
    session.terminated = false ∧ session.test.Accepts statement ∧
      after = { session with test := session.test.extended statement } := by
  by_cases terminated : session.terminated = true
  · rw [emit_of_terminated terminated] at ran
    cases ran
  have running : session.terminated = false := by simpa using terminated
  -- A running test takes the statement exactly if its test case does.
  rw [emit_of_running running] at ran
  split at ran
  · rename_i test appended
    obtain ⟨accepted, rfl⟩ := TestCase.append_eq_ok_iff.mp appended
    cases ran
    exact ⟨running, accepted, rfl⟩
  · cases ran

/-- A statement without a result is appended by a test that is running. -/
theorem emit_ready {statement : Statement} {result : Unit} (defines : statement.defines = none)
    (ran : emit statement session = .ok result after) :
    Ready session none statement ∧ (∀ used ∈ statement.uses, session.test.Defined used) ∧
      after = session.appended statement none := by
  obtain ⟨running, accepted, rfl⟩ := emit_ok ran
  -- What the test case has accepted is what makes a statement ready.
  have ready : Ready session none statement := {
    running
    unbound := fun _ _ absent => by cases absent
    defines
    inside := accepted.target_inside }
  exact ⟨ready, accepted.uses_defined, rfl⟩

/-- A statement with a new variable is taken by a test that is running. -/
theorem temporary_ok {type : RuntimeType} {build : Var → Statement} {var : Var}
    (ran : temporary type build session = .ok var after) :
    session.terminated = false ∧
      (∀ used ∈ (build session.nextVar).uses, session.test.Defined used) ∧
      var = session.nextVar ∧ after = session.produced type (build session.nextVar) := by
  have steps : temporary type build session =
      (emit (build session.nextVar) >>= fun _ => pure session.nextVar) (session.declared type) :=
    rfl
  rw [steps] at ran
  obtain ⟨_, middle, emitted, ⟨⟩⟩ := bind_eq_ok_iff.mp ran
  obtain ⟨running, accepted, rfl⟩ := emit_ok emitted
  refine ⟨running, fun used member => ?_, rfl, rfl⟩
  -- The new variable is not defined yet, so it is none of those that are read.
  obtain ⟨position, defined⟩ := accepted.uses_defined used member
  exact ⟨position, by simpa [Compilation.declared] using defined⟩

/-- A plan gets a variable when it has none and the test is running. -/
theorem define_ok {owner : String} {type : RuntimeType} {build : Var → Statement} {var : Var}
    (defines : ∀ var, (build var).defines = some var)
    (ran : define owner type build session = .ok var after) :
    Ready session (some (owner, type)) (build session.nextVar) ∧
      (∀ used ∈ (build session.nextVar).uses, session.test.Defined used) ∧
      var = session.nextVar ∧
      after = session.appended (build session.nextVar) (some (owner, type)) := by
  obtain ⟨_, _, ensured, rest⟩ := bind_eq_ok_iff.mp ran
  obtain ⟨unbound, rfl⟩ := ensureUnbound_ok ensured
  obtain ⟨_, _, made, _⟩ := bind_eq_ok_iff.mp rest
  obtain ⟨running, reads, rfl, rfl⟩ := temporary_ok made
  -- The run is the one that is known for a plan without a variable.
  have eq := @define_eq ρ _ type build owner (defines _) reads
  rw [if_neg (by simp [unbound]), if_neg (by simp [running]), ran] at eq
  cases eq
  refine ⟨⟨running, ?_, defines _, fun array index value same => ?_⟩, reads, rfl, rfl⟩
  · rintro _ _ ⟨⟩
    exact unbound
  · have defines := defines ‹Compilation ρ›.nextVar
    rw [same] at defines
    cases defines

/-- A statement is appended for a plan without a variable, or for none, by a running test. -/
theorem append_ok {owner : Option (String × RuntimeType)} {build : Option Var → Statement}
    {result : Unit} (defines : ∀ result, (build result).defines = result)
    (ran : append owner build session = .ok result after) :
    Ready session owner (build (owner.map fun _ => session.nextVar)) ∧
      (∀ used ∈ (build (owner.map fun _ => session.nextVar)).uses, session.test.Defined used) ∧
      after = session.appended (build (owner.map fun _ => session.nextVar)) owner := by
  cases owner with
  -- Without a plan it is a plain statement.
  | none => exact emit_ready (defines none) ran
  | some owner =>
    obtain ⟨_, _, defined, ⟨⟩⟩ := bind_eq_ok_iff.mp ran
    obtain ⟨ready, reads, _, rfl⟩ := define_ok (fun var => defines (some var)) defined
    exact ⟨ready, reads, rfl⟩

/-- A plan that may be entered is not being compiled. -/
theorem checkNesting_ok {config : CompilerConfig} {name : String} {result : Unit}
    (ran : checkNesting config name session = .ok result after) :
    name ∉ session.active ∧ after = session := by
  rw [checkNesting, get_bind] at ran
  dsimp only at ran
  split at ran
  · -- A plan that is being compiled is refused.
    obtain ⟨_, _, ⟨⟩, _⟩ := bind_eq_ok_iff.mp ran
  rename_i outside
  refine ⟨by simpa using outside, ?_⟩
  -- Whether or not there is a limit, passing it changes nothing.
  cases limited : config.maxDepth with
  | none =>
    rw [limited] at ran
    cases ran
    rfl
  | some limit =>
    simp only [limited] at ran
    split at ran
    · cases ran
    · cases ran; rfl

/-- A step inside a plan is carried out on the compilation inside it. -/
theorem within_ok {name : String} {body : Lowering ρ Unit} {result : Unit}
    (ran : within name body session = .ok result after) :
    ∃ inside, body (session.enter name) = .ok () inside ∧ after = inside.leave := by
  -- A failure inside is a failure outside, so the body has succeeded.
  unfold within at ran
  split at ran
  · rename_i inside entered
    cases ran
    exact ⟨inside, entered, rfl⟩
  · cases ran

/-- A plan is compiled already, or it is compiled now and met nowhere before. -/
theorem once_ok {config : CompilerConfig} {name : String} {body : Lowering ρ Unit} {result : Unit}
    (ran : once config name body session = .ok result after) :
    (session.bindings.isCompiled name = true ∧ after = session) ∨
      session.bindings.isCompiled name = false ∧ name ∉ session.active ∧
        ∃ inside, body (session.enter name) = .ok () inside ∧
          after = (inside.recorded name).leave := by
  rw [once, get_bind] at ran
  split at ran
  · rename_i compiled
    cases ran
    exact .inl ⟨compiled, rfl⟩
  · rename_i compiled
    -- Otherwise the plan is entered, lowered, left and recorded.
    obtain ⟨_, _, checked, rest⟩ := bind_eq_ok_iff.mp ran
    obtain ⟨outside, rfl⟩ := checkNesting_ok checked
    obtain ⟨_, _, entered, ⟨⟩⟩ := bind_eq_ok_iff.mp rest
    obtain ⟨inside, lowered, rfl⟩ := within_ok entered
    exact .inr ⟨by simpa using compiled, outside, inside, lowered, rfl⟩

/-- A test that is compiled has compiled its roots, and then appended the call. -/
theorem compileTest_ok [ClassLoading ρ] {sharing : Sharing} {config : CompilerConfig}
    {method : MethodReference} {parameters : Parameters} {test : CompiledTest}
    (compiled : compileTest sharing config method parameters session = .ok test after) :
    test = after.compiled ∧ ∃ prepared,
      compileParameters config parameters session = .ok () prepared ∧
        lowerTestCall config (parameters.testCall method) prepared = .ok () after := by
  -- Checking the names leaves the compilation as it is.
  obtain ⟨_, _, checked, ran⟩ := bind_eq_ok_iff.mp compiled
  obtain ⟨_, rfl⟩ := ofExcept_ok checked
  obtain ⟨_, prepared, prepares, ran⟩ := bind_eq_ok_iff.mp ran
  obtain ⟨_, _, calls, ⟨⟩⟩ := bind_eq_ok_iff.mp ran
  exact ⟨rfl, prepared, prepares, calls⟩

end Lower

end TestPlan
