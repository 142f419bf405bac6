import TestPlan.Proofs.Lowering.Success
import TestPlan.Proofs.Lowering.Temporaries

/-! What a step that fails leaves behind: the receivers of accesses to static fields. -/

namespace TestPlan

variable {ρ α β : Type}

/-! ### Failures that leave nothing -/

/-- A step that does nothing but load classes. -/
def OnlyLoads (step : Lowering ρ α) : Prop :=
  ∀ session, ∃ loader, endState step session = { session with loader }

namespace OnlyLoads

/-- A lookup only loads classes. -/
theorem resolve (lookup : Lookup ρ α) : OnlyLoads (Lower.resolve lookup) := by
  intro session
  unfold endState Lower.resolve
  cases lookup session.loader with
  | ok found loader => exact ⟨loader, rfl⟩
  | error error loader => exact ⟨loader, rfl⟩

/-- What is done after a look at the state only loads classes. -/
theorem get_bind {next : Compilation ρ → Lowering ρ α}
    (rest : ∀ state, OnlyLoads (next state)) : OnlyLoads (get >>= next) :=
  fun session => rest session session

end OnlyLoads

/-- A step that has appended and bound nothing when it fails, unless it fails in some way. -/
def FailsIdly (besides : CompileError → Compilation ρ → Prop) (step : Lowering ρ α)
    (session : Compilation ρ) : Prop :=
  ∀ error after, step session = .error error after →
    after.test.statements = session.test.statements ∧ after.bindings = session.bindings ∨
      besides error after

/-- Classes may be loaded before a step that has done nothing when it fails. -/
theorem FailsIdly.load {besides : CompileError → Compilation ρ → Prop} {step : Lowering ρ α}
    {next : α → Lowering ρ β} {session : Compilation ρ} (loads : OnlyLoads step)
    (rest : ∀ found loader, FailsIdly besides (next found) { session with loader }) :
    FailsIdly besides (step >>= next) session := by
  intro error after failed
  obtain ⟨loader, loaded⟩ := loads session
  rcases bind_eq_error_iff.mp failed with failed | ⟨found, middle, ran, failed⟩
  · rw [endState_of_error failed] at loaded
    subst loaded
    exact .inl ⟨rfl, rfl⟩
  · rw [endState_of_ok ran] at loaded
    subst loaded
    exact rest found loader error after failed

namespace Lower

variable {session after : Compilation ρ} {type : RuntimeType} {error : CompileError}

/--
A statement that makes a value, and the one that the value is for, fail together only when the test
is complete or the plan of the result has a value. In the second case the first statement is left.
-/
theorem both_error {owner : Option (String × RuntimeType)} {first : Var → Statement}
    {second : Var → Option Var → Statement} {others : List Var} (orderly : Orderly session)
    (failed : (temporary type first >>= fun var => append owner (second var)) session
      = .error error after)
    (defines : ∀ var, (first var).defines = some var)
    (reads : ∀ result, ∀ var ∈ (first result).uses, session.Holds var)
    (defines' : ∀ var result, (second var result).defines = result)
    (uses : ∀ var result, (second var result).uses = var :: others)
    (reads' : ∀ var ∈ others, session.Holds var)
    (outside : ∀ var result array index value,
      second var result ≠ .assignment (.element array index) value) :
    session.terminated = true ∧ after = session.declared type ∨
      ∃ name type', owner = some (name, type') ∧ session.bindings.isBound name = true ∧
        error = .duplicateBinding name ∧
        after = session.produced type (first session.nextVar) := by
  have made := @temporary_eq ρ session type first (defines _) (orderly.reads_defined (reads _))
  by_cases terminated : session.terminated = true
  · rw [if_pos terminated] at made
    rw [bind_of_error made] at failed
    cases failed
    exact .inl ⟨terminated, rfl⟩
  rw [if_neg terminated] at made
  rw [bind_of_ok made] at failed
  have running : session.terminated = false := by simpa using terminated
  right
  by_cases bound : ∃ name type', owner = some (name, type') ∧ session.bindings.isBound name = true
  · obtain ⟨name, type', rfl, bound⟩ := bound
    have refused : append (some (name, type')) (second session.nextVar)
        (session.produced type (first session.nextVar)) = .error (.duplicateBinding name) _ :=
      append_of_bound bound
    rw [refused] at failed
    cases failed
    exact ⟨name, type', rfl, bound, rfl, rfl⟩
  · -- The second statement reads the new variable and what was known before, so it is accepted.
    have ready : Ready (session.produced type (first session.nextVar)) owner
        (second session.nextVar
          (owner.map fun _ => (session.produced type (first session.nextVar)).nextVar)) := {
      running
      unbound := fun name type' same => by
        rw [← Bool.not_eq_true]
        exact fun found => bound ⟨name, type', same, found⟩
      defines := defines' _ _
      inside := fun array index value same => (outside _ _ array index value same).elim }
    have known : ∀ var ∈ (second session.nextVar (owner.map fun _ =>
        (session.produced type (first session.nextVar)).nextVar)).uses,
        (session.produced type (first session.nextVar)).test.Defined var := by
      rw [uses]
      exact orderly.reads_produced running (defines _) reads'
    rw [append_of_ready ready known] at failed
    cases failed

variable [ClassLoading ρ]

/-- A routine is found by loading classes only. -/
theorem operandRoutine_onlyLoads (helpers : HelperLibrary) (purpose : HelperPurpose)
    (operand : Operand) : OnlyLoads (ρ := ρ) (operandRoutine helpers purpose operand) :=
  .get_bind fun _ => .resolve _

/-- A helper call on a null in place of an object leaves nothing when it fails. -/
theorem nullCall_failsIdly (helper : HelperRoutine) {args : List Operand}
    {owner : Option (String × RuntimeType)} (orderly : Orderly session)
    (known : session.Knows args)
    (unbound : ∀ name type, owner = some (name, type) → session.bindings.isBound name = false) :
    FailsIdly (fun _ _ => False) (do
      let receiver ← receiverOrNull none
      append owner (.reflection helper (receiver :: args))) session := by
  simp only [receiverOrNull, nullVar, bind_assoc, pure_bind]
  -- Only the type of null is looked up before the null is there, and then nothing can fail.
  refine .load (.resolve _) fun type loader error after failed => ?_
  have loaded : Orderly { session with loader } := { orderly with }
  rcases both_error loaded failed (fun _ => rfl) (fun _ => Compilation.knows_nil) (fun _ _ => rfl)
    (fun _ _ => rfl) known (fun _ _ _ _ _ same => by cases same) with
    ⟨-, rfl⟩ | ⟨name, type', owned, bound, -, -⟩
  · exact .inl ⟨rfl, rfl⟩
  · exact absurd bound (by simp [unbound name type' owned])

/-- A store in a static field that fails leaves only what reading the value has left. -/
theorem setStaticField_leaves (config : CompilerConfig) (owner : String) (field : FieldReference)
    (value : Plan) (orderly : Orderly session)
    (failed : lowerReflectiveAction config owner (.setStaticField field value) session
      = .error error after) :
    after.test.statements = (endState (operand config value) session).test.statements ∧
      after.bindings = (endState (operand config value) session).bindings := by
  rcases bind_eq_error_iff.mp failed with failed | ⟨found, middle, ran, failed⟩
  · rw [endState_of_error failed]
    exact ⟨rfl, rfl⟩
  rw [endState_of_ok ran]
  -- The value has been read, and it stays known while classes are loaded.
  have read := operand_ensures config value session orderly
  rw [ran] at read
  obtain ⟨moves, known⟩ := read
  have reached := moves.orderly orderly
  suffices idle : FailsIdly (fun _ _ => False) _ middle from
    (idle error after failed).resolve_right id
  refine .load (operandRoutine_onlyLoads _ _ _) fun helper loader => ?_
  unfold fieldLocator
  simp only [bind_assoc, pure_bind]
  refine .load (.resolve _) fun loaded loader => ?_
  have locator : Compilation.Knows { middle with loader } ([.constant (.classObject loaded.type),
      .constant (.text field.name)] ++ [found]) :=
    Compilation.knows_append.mpr ⟨by simp, known⟩
  exact @nullCall_failsIdly _ _ _ helper _ none { reached with } locator nofun

/-- A read of a static field that fails leaves nothing. -/
theorem getStaticField_leaves (config : CompilerConfig) (owner : String) (field : FieldReference)
    (orderly : Orderly session)
    (failed : lowerReflectiveAction config owner (.getStaticField field) session
      = .error error after) :
    after.test.statements = session.test.statements ∧ after.bindings = session.bindings := by
  suffices idle : FailsIdly (fun _ _ => False) _ session from
    (idle error after failed).resolve_right id
  refine .load (.resolve _) fun type loader => ?_
  refine .load (.resolve _) fun helper loader => ?_
  unfold fieldLocator
  simp only [bind_assoc, pure_bind]
  refine .load (.resolve _) fun loaded loader error after failed => ?_
  -- A plan that has a value is refused before the null is made.
  by_cases bound : session.bindings.isBound owner = true
  · have refused := @ensureUnbound_eq ρ { session with loader } owner
    rw [if_pos bound] at refused
    rw [bind_of_error refused] at failed
    cases failed
    exact .inl ⟨rfl, rfl⟩
  · have passed := @ensureUnbound_eq ρ { session with loader } owner
    rw [if_neg bound] at passed
    rw [bind_of_ok passed] at failed
    have unbound : session.bindings.isBound owner = false := by simpa using bound
    have locator : Compilation.Knows { session with loader }
        [.constant (.classObject loaded.type), .constant (.text field.name)] := by simp
    have owned : ∀ name type', some (owner, type) = some (name, type') →
        session.bindings.isBound name = false := by
      rintro _ _ ⟨⟩
      exact unbound
    have reached : Orderly { session with loader } := { orderly with }
    exact nullCall_failsIdly helper reached locator owned error after failed

end Lower

/-! ### Accesses to static fields -/

variable [ClassLoading ρ]

/-- The states that a compilation passes through from one on, inside any plans. -/
inductive Underway (start : Compilation ρ) : Compilation ρ → Prop
  | start : Underway start start
  | moves {session after : Compilation ρ} : Underway start session → Moves session after →
      Underway start after
  | enter {session : Compilation ρ} {name : String} : Underway start session →
      Underway start (session.enter name)

/-- A compilation that is orderly stays so. -/
theorem Underway.orderly {start session : Compilation ρ} (underway : Underway start session)
    (orderly : Orderly start) : Orderly session := by
  induction underway with
  | start => exact orderly
  | moves _ moves ih => exact moves.orderly ih
  | enter _ ih => exact { ih with }

namespace Compilation

/--
After any requests, a null that belongs to no plan is the receiver of the helper call right after
it and is read by nothing else. An access to a static field that fails, in any state on the way of
further requests, has appended and bound nothing itself.
-/
theorem answerAll_receivers (config : CompilerConfig) (loader : ρ) (requests : List Request) :
    (∀ position var,
      (answerAll config { loader } requests).test.statements[position]? = some (.null var) →
      ¬ (answerAll config { loader } requests).Holds var →
        (∃ helper args result,
          (answerAll config { loader } requests).test.statements[position + 1]?
            = some (.reflection helper (.var var :: args) result)) ∧
          ∀ reader statement,
            (answerAll config { loader } requests).test.statements[reader]? = some statement →
            var ∈ statement.uses → reader = position + 1) ∧
      ∀ session, Underway (answerAll config { loader } requests) session →
        ∀ owner field error after,
          (∀ value, Lower.lowerReflectiveAction config owner (.setStaticField field value) session
              = .error error after →
            after.test.statements
                = (endState (Lower.operand config value) session).test.statements ∧
              after.bindings = (endState (Lower.operand config value) session).bindings) ∧
          (Lower.lowerReflectiveAction config owner (.getStaticField field) session
              = .error error after →
            after.test.statements = session.test.statements ∧
              after.bindings = session.bindings) := by
  have moves := answerAll_moves config (Orderly.initial loader) requests
  have orderly := moves.orderly (Orderly.initial loader)
  have tidy : (answerAll config { loader } requests).Tidy :=
    moves.tidy (Orderly.initial loader) fun _ _ _ spare => by cases spare.there
  refine ⟨fun position var there unheld => ?_, fun session underway owner field error after => ?_⟩
  · cases tidy position _ var ⟨there, rfl, unheld⟩ with
    | passed next passes _ only =>
      cases passes with
      | receiver helper args result => exact ⟨⟨helper, args, result, next⟩, only⟩
    -- What may be lost is an array.
    | lost made _ => cases made
  · have orderly := underway.orderly orderly
    exact ⟨fun value => Lower.setStaticField_leaves config owner field value orderly,
      Lower.getStaticField_leaves config owner field orderly⟩

end Compilation

end TestPlan
