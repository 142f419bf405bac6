/-! Runs of steps that change a state, and keep what they have done to it when they fail. -/

namespace TestPlan

variable {ε σ α β : Type} {step : EStateM ε σ α} {next : α → EStateM ε σ β} {state after : σ}

/-- After a success the next step goes on. -/
theorem bind_of_ok {result : α} (ran : step state = .ok result after) :
    (step >>= next) state = next result after := by
  simp only [Bind.bind, EStateM.bind, ran]

/-- After a failure nothing else is done. -/
theorem bind_of_error {error : ε} (failed : step state = .error error after) :
    (step >>= next) state = .error error after := by
  simp only [Bind.bind, EStateM.bind, failed]

/-- Two steps succeed when the first one does and the second one does after it. -/
theorem bind_eq_ok_iff {result : β} :
    (step >>= next) state = .ok result after ↔
      ∃ found middle, step state = .ok found middle ∧ next found middle = .ok result after := by
  -- A failure of the first step is that of both, so only its success is left.
  cases ran : step state with
  | error error middle => simp [bind_of_error ran]
  | ok found middle =>
    rw [bind_of_ok ran]
    constructor
    · exact fun rest => ⟨found, middle, rfl, rest⟩
    · rintro ⟨_, _, ⟨⟩, rest⟩
      exact rest

/-- Two steps fail when the first one does, or the second one does after it. -/
theorem bind_eq_error_iff {error : ε} :
    (step >>= next) state = .error error after ↔ step state = .error error after ∨
      ∃ found middle, step state = .ok found middle ∧ next found middle = .error error after := by
  cases ran : step state with
  | error error middle => simp [bind_of_error ran]
  | ok found middle =>
    rw [bind_of_ok ran]
    constructor
    · exact fun rest => .inr ⟨found, middle, rfl, rest⟩
    · rintro (⟨⟨⟩⟩ | ⟨_, _, ⟨⟩, rest⟩)
      exact rest

/-- A step that succeeds has a run with its result. -/
theorem run'_of_ok {result : α} (ran : step state = .ok result after) :
    step.run' state = some result := by
  unfold EStateM.run' EStateM.run
  rw [ran]

/-- A run with a result has succeeded. -/
theorem exists_ok_of_run' (succeeds : (step.run' state).isSome = true) :
    ∃ result after, step state = .ok result after := by
  unfold EStateM.run' EStateM.run at succeeds
  split at succeeds
  · exact ⟨_, _, ‹_›⟩
  · cases succeeds

/-- A run with a result that passes a check has succeeded. -/
theorem exists_ok_of_any_run' {check : α → Bool}
    (succeeds : (step.run' state).any check = true) :
    ∃ result after, step state = .ok result after ∧ check result = true := by
  unfold EStateM.run' EStateM.run at succeeds
  split at succeeds
  · exact ⟨_, _, ‹_›, succeeds⟩
  · cases succeeds

/-- A result that is no failure is there. -/
theorem exists_ok_of_isOk {result : Except ε α} (succeeds : result.isOk = true) :
    ∃ value, result = .ok value := by
  cases result with
  | ok value => exact ⟨value, rfl⟩
  | error _ => cases succeeds

/-- Checks that are made in order all pass exactly when each of them does. -/
theorem forM_eq_ok_iff {check : α → Except ε Unit} {items : List α} :
    items.forM check = .ok () ↔ ∀ item ∈ items, check item = .ok () := by
  rw [List.forM_eq_forM]
  -- The first check that fails ends them.
  induction items with
  | nil => simp [pure, Except.pure]
  | cons item rest ih =>
    rw [List.forM_cons]
    cases checked : check item with
    | error error => simp [checked, Bind.bind, Except.bind]
    | ok _ => simp [checked, ih, Bind.bind, Except.bind]

/-- The failure of a run, if it is one. -/
def failure? (step : EStateM ε σ α) (state : σ) : Option ε :=
  match step state with
  | .ok _ _ => none
  | .error error _ => some error

/-- A run with a failure has failed. -/
theorem exists_error_of_failure? {error : ε} (fails : failure? step state = some error) :
    ∃ after, step state = .error error after := by
  unfold failure? at fails
  split at fails
  · cases fails
  · cases fails
    exact ⟨_, ‹_›⟩

/-- The state in which a run ends, whether it succeeds or fails. -/
def endState (step : EStateM ε σ α) (state : σ) : σ :=
  match step state with
  | .ok _ after
  | .error _ after => after

/-- A success ends in its state. -/
theorem endState_of_ok {result : α} (ran : step state = .ok result after) :
    endState step state = after := by
  simp only [endState, ran]

/-- A failure ends in its state. -/
theorem endState_of_error {error : ε} (failed : step state = .error error after) :
    endState step state = after := by
  simp only [endState, failed]

/-- A result that is given at the end has no effect. -/
theorem endState_bind_pure {result : β} :
    endState (step >>= fun _ => pure result) state = endState step state := by
  cases ran : step state with
  | error => simp only [endState, bind_of_error ran, ran]
  | ok found middle => simp only [endState, bind_of_ok ran, ran, pure, EStateM.pure]

/-- The state is read as it is. -/
theorem get_bind {next : σ → EStateM ε σ β} : (get >>= next) state = next state state :=
  rfl

end TestPlan
