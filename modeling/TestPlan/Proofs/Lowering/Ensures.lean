import TestPlan.Proofs.Lowering.Orderly
import TestPlan.Proofs.Runs

/-! What a step of a lowering ensures, whether it succeeds or fails. -/

namespace TestPlan

variable {ρ α β : Type}

/-- A failure that every step may end with, wherever it takes place. -/
def CompileError.Ordinary : CompileError → Prop
  | .cyclicPlan _
  | .depthExceeded _ => False
  | .testCase error => error.ofElement = true
  | _ => True

/-- What the classes lack is an ordinary failure. -/
theorem CompileError.ordinary_of_mismatch {error : CompileError}
    (mismatch : error.isClassModelMismatch = true) : error.Ordinary := by
  cases error <;> trivial

/-- Operands that read no variables but those that hold values of plans. -/
def Compilation.Knows (session : Compilation ρ) (operands : List Operand) : Prop :=
  ∀ var ∈ operands.filterMap Operand.var?, session.Holds var

namespace Compilation

variable {session : Compilation ρ}

/-- Nothing is read without operands. -/
@[simp] theorem knows_nil : session.Knows [] := by
  simp [Knows]

/-- A constant reads nothing. -/
@[simp] theorem knows_constant_cons {value : Constant} {operands : List Operand} :
    session.Knows (.constant value :: operands) ↔ session.Knows operands := by
  simp [Knows, Operand.var?]

/-- An operand that is a variable reads it. -/
@[simp] theorem knows_var_cons {var : Var} {operands : List Operand} :
    session.Knows (.var var :: operands) ↔ session.Holds var ∧ session.Knows operands := by
  simp [Knows, Operand.var?]

/-- A single operand reads its variable, if it is one. -/
theorem knows_singleton {operand : Operand} :
    session.Knows [operand] ↔ ∀ var ∈ operand.var?, session.Holds var := by
  cases operand <;> simp [Knows, Operand.var?]

/-- The operands of two lists read what both read. -/
@[simp] theorem knows_append {left right : List Operand} :
    session.Knows (left ++ right) ↔ session.Knows left ∧ session.Knows right := by
  simp [Knows, List.filterMap_append, or_imp, forall_and]

/-- The operands of a list read what the first and the others read. -/
theorem knows_cons {operand : Operand} {operands : List Operand} :
    session.Knows (operand :: operands) ↔ session.Knows [operand] ∧ session.Knows operands := by
  rw [← knows_append, List.singleton_append]

/-- An assignment to an element reads the array and the value. -/
theorem uses_element {array : Var} {index : Nat} {value : Operand} :
    (∀ var ∈ (Statement.assignment (.element array index) value).uses, session.Holds var) ↔
      session.Holds array ∧ session.Knows [value] := by
  simp [Statement.uses, knows_singleton]

/-- What is known stays known. -/
theorem Knows.mono {after : Compilation ρ} {operands : List Operand}
    (known : session.Knows operands) (kept : Keeps session after) : after.Knows operands :=
  fun var used => kept.holds (known var used)

end Compilation

section Ensures

variable [ClassLoading ρ]

/--
From an orderly compilation the step only makes moves, and it ends with a result that fulfils
the condition or with a failure that is admitted.
-/
def Ensures (fail : CompileError → Prop) (step : Lowering ρ α) (session : Compilation ρ)
    (post : α → Compilation ρ → Prop) : Prop :=
  Orderly session →
    match step session with
    | .ok result after => Moves session after ∧ post result after
    | .error error after => Moves session after ∧ fail error

namespace Ensures

variable {fail : CompileError → Prop} {session : Compilation ρ}

/-- A result at hand is returned. -/
theorem pure {result : α} {post : α → Compilation ρ → Prop} (holds : post result session) :
    Ensures fail (Pure.pure result) session post :=
  fun _ => ⟨.refl session, holds⟩

/-- A failure at hand is reported. -/
theorem throw {error : CompileError} {post : α → Compilation ρ → Prop} (admitted : fail error) :
    Ensures fail (MonadExcept.throw error) session post :=
  fun _ => ⟨.refl session, admitted⟩

/-- After a failure at hand nothing else is done. -/
theorem throw_bind {error : CompileError} {next : α → Lowering ρ β}
    {post : β → Compilation ρ → Prop} (admitted : fail error) :
    Ensures fail (MonadExcept.throw error >>= next) session post :=
  fun _ => ⟨.refl session, admitted⟩

/-- The state may be read. -/
theorem get_bind {next : Compilation ρ → Lowering ρ β} {post : β → Compilation ρ → Prop}
    (rest : Ensures fail (next session) session post) :
    Ensures fail (MonadState.get >>= next) session post :=
  rest

/-- A step that ends in one move changes the state by it. -/
theorem change {change : Compilation ρ → Compilation ρ} {post : Unit → Compilation ρ → Prop}
    (move : Move session (change session)) (holds : post () (change session)) :
    Ensures fail (modify change) session post :=
  fun _ => ⟨.one move, holds⟩

/-- A step that goes on from where another one has ended. -/
theorem bind {step : Lowering ρ α} {next : α → Lowering ρ β} {middle : α → Compilation ρ → Prop}
    {post : β → Compilation ρ → Prop} (first : Ensures fail step session middle)
    (rest : ∀ result after, Moves session after → middle result after →
      Ensures fail (next result) after post) :
    Ensures fail (step >>= next) session post := by
  intro orderly
  have first := first orderly
  simp only [Bind.bind, EStateM.bind]
  revert first
  cases step session with
  | error error after => exact id
  | ok result after =>
    rintro ⟨moves, holds⟩
    -- The second step starts in an orderly compilation as well.
    have rest := rest result after moves holds (moves.orderly orderly)
    dsimp only
    revert rest
    cases next result after with
    | ok result last => exact fun ⟨more, holds⟩ => ⟨moves.trans more, holds⟩
    | error error last => exact fun ⟨more, admitted⟩ => ⟨moves.trans more, admitted⟩

/-- What is ensured may be stated more loosely. -/
theorem mono {step : Lowering ρ α} {post post' : α → Compilation ρ → Prop}
    {fail' : CompileError → Prop} (ensured : Ensures fail step session post)
    (admits : ∀ error, fail error → fail' error)
    (holds : ∀ result after, post result after → post' result after) :
    Ensures fail' step session post' := by
  intro orderly
  have ensured := ensured orderly
  revert ensured
  -- The moves are the same; only what is said of the end is weakened.
  cases step session with
  | ok result after => exact fun ⟨moves, held⟩ => ⟨moves, holds result after held⟩
  | error error after => exact fun ⟨moves, failed⟩ => ⟨moves, admits error failed⟩

end Ensures

end Ensures

/-! ### Steps that every lowering is made of -/

namespace Lower

variable {session : Compilation ρ} {type : RuntimeType} {statement : Statement}
  {build : Var → Statement}

/-- A complete test takes no statement. -/
theorem emit_of_terminated (terminated : session.terminated = true) :
    emit statement session = .error .afterTestCall session := by
  rw [emit, get_bind, if_pos terminated]
  rfl

/-- A running test takes a statement as its test case does. -/
theorem emit_of_running (running : session.terminated = false) :
    emit statement session = match session.test.append statement with
      | .ok test => .ok () { session with test }
      | .error error => .error (.testCase error) session := by
  rw [emit, get_bind, if_neg (by simp [running])]
  cases session.test.append statement <;> rfl

/-- A running test takes a statement that its test case accepts. -/
theorem emit_of_accepts (running : session.terminated = false)
    (accepted : session.test.Accepts statement) :
    emit statement session = .ok () { session with test := session.test.extended statement } := by
  rw [emit_of_running running, TestCase.append_eq_ok_iff.mpr ⟨accepted, rfl⟩]

/-- A statement with a new variable is taken exactly by a test that is running. -/
theorem temporary_eq (defines : (build session.nextVar).defines = some session.nextVar)
    (reads : ∀ var ∈ (build session.nextVar).uses, session.test.Defined var) :
    temporary type build session =
      if session.terminated = true then .error .afterTestCall (session.declared type)
      else .ok session.nextVar (session.produced type (build session.nextVar)) := by
  -- The variable is declared first, and stays so if the statement is not taken.
  have steps : temporary type build session =
      (emit (build session.nextVar) >>= fun _ => pure session.nextVar) (session.declared type) :=
    rfl
  rw [steps]
  by_cases terminated : session.terminated = true
  · have refused : emit (build session.nextVar) (session.declared type)
        = .error .afterTestCall (session.declared type) :=
      emit_of_terminated terminated
    rw [bind_of_error refused, if_pos terminated]
  · have running : (session.declared type).terminated = false := by
      simpa [Compilation.declared] using terminated
    have accepted := TestCase.accepts_declare type defines reads
    rw [bind_of_ok (emit_of_accepts running accepted), if_neg terminated]
    rfl

/-- A plan passes exactly when it has no variable. -/
theorem ensureUnbound_eq {owner : String} :
    ensureUnbound owner session =
      if session.bindings.isBound owner = true then .error (.duplicateBinding owner) session
      else .ok () session := by
  rw [ensureUnbound, get_bind]
  split <;> rfl

/-- A plan that has a variable gets no other. -/
theorem define_of_bound {owner : String} (bound : session.bindings.isBound owner = true) :
    define owner type build session = .error (.duplicateBinding owner) session := by
  have refused := @ensureUnbound_eq ρ session owner
  rw [if_pos bound] at refused
  exact bind_of_error refused

/-- A plan gets a new variable exactly when it has none and the test is running. -/
theorem define_eq {owner : String}
    (defines : (build session.nextVar).defines = some session.nextVar)
    (reads : ∀ var ∈ (build session.nextVar).uses, session.test.Defined var) :
    define owner type build session =
      if session.bindings.isBound owner = true then .error (.duplicateBinding owner) session
      else if session.terminated = true then .error .afterTestCall (session.declared type)
      else .ok session.nextVar
        (session.appended (build session.nextVar) (some (owner, type))) := by
  by_cases bound : session.bindings.isBound owner = true
  · rw [if_pos bound, define_of_bound bound]
  -- A plan without a variable goes through all the steps that are left.
  have steps : define owner type build session =
      (ensureUnbound owner >>= fun _ => temporary type build >>= fun var => get >>= fun state =>
        ofExcept (state.bindings.bind owner var) >>= fun bindings =>
          modify ({ · with bindings }) >>= fun _ => pure var) session :=
    rfl
  have ensured := @ensureUnbound_eq ρ session owner
  rw [if_neg bound] at ensured
  rw [steps, bind_of_ok ensured, if_neg bound]
  have made := @temporary_eq ρ session type build defines reads
  by_cases terminated : session.terminated = true
  · rw [if_pos terminated] at made
    rw [bind_of_error made, if_pos terminated]
  · rw [if_neg terminated] at made
    -- Nothing has been bound since the plan was seen to have no variable.
    have bind : (session.produced type (build session.nextVar)).bindings.bind owner
        session.nextVar = .ok { session.bindings with
          bound := session.bindings.bound ++ [(owner, session.nextVar)] } := by
      simp [Bindings.bind, Compilation.produced, bound]
    rw [bind_of_ok made, if_neg terminated, get_bind, bind]
    rfl

/-- A plan that has a variable gets no other. -/
theorem append_of_bound {name : String} {build : Option Var → Statement}
    (bound : session.bindings.isBound name = true) :
    append (some (name, type)) build session = .error (.duplicateBinding name) session :=
  bind_of_error (define_of_bound bound)

/-- A statement that is ready is appended, for a plan when one is given. -/
theorem append_of_ready {owner : Option (String × RuntimeType)}
    {build : Option Var → Statement}
    (ready : Ready session owner (build (owner.map fun _ => session.nextVar)))
    (reads : ∀ var ∈ (build (owner.map fun _ => session.nextVar)).uses,
      session.test.Defined var) :
    append owner build session =
      .ok () (session.appended (build (owner.map fun _ => session.nextVar)) owner) := by
  cases owner with
  | none =>
    -- Without a plan the statement is appended as it is.
    have accepted : session.test.Accepts (build none) :=
      ⟨reads, ready.inside, fun var result => by
        rw [show (build none).defines = none from ready.defines] at result
        cases result⟩
    exact emit_of_accepts ready.running accepted
  | some owner =>
    obtain ⟨name, type⟩ := owner
    -- With a plan the statement defines its new variable.
    have defined := @define_eq ρ session type (fun var => build (some var)) name ready.defines reads
    rw [if_neg (by simp [ready.unbound name type rfl]), if_neg (by simp [ready.running])] at defined
    exact bind_of_ok defined

variable [ClassLoading ρ] {fail : CompileError → Prop}

/-- A lookup only loads classes. -/
theorem resolve_ensures (ordinary : ∀ error, CompileError.Ordinary error → fail error)
    {lookup : Lookup ρ α} (plain : Plain lookup) :
    Ensures fail (resolve lookup) session fun _ after => after.bindings = session.bindings := by
  intro _
  have loads := plain session.loader
  unfold resolve
  revert loads
  -- Whether something is found or not, the only move is that classes are loaded.
  cases lookup session.loader with
  | ok found loader => exact fun loads => ⟨.one (.load loads), rfl⟩
  | error error loader =>
    exact fun ⟨loads, mismatch⟩ =>
      ⟨.one (.load loads), ordinary error (CompileError.ordinary_of_mismatch mismatch)⟩

/-- A result that is no failure is returned. -/
theorem ofExcept_ensures {result : Except CompileError α}
    (admitted : ∀ error, result = .error error → fail error) :
    Ensures fail (Lower.ofExcept result) session fun _ _ => True := by
  cases result with
  | ok result => exact .pure trivial
  | error error => exact .throw (admitted error rfl)

/-- A plan may be required to have no variable. -/
theorem ensureUnbound_ensures (ordinary : ∀ error, CompileError.Ordinary error → fail error)
    (owner : String) :
    Ensures fail (ensureUnbound owner) session fun _ after =>
      after.bindings.isBound owner = false := by
  intro _
  -- Nothing is changed by the check, whichever way it ends.
  by_cases bound : session.bindings.isBound owner = true
  · simp only [ensureUnbound, get_bind, bound]
    exact ⟨.refl session, ordinary _ trivial⟩
  · simp only [ensureUnbound, get_bind, bound]
    exact ⟨.refl session, by simpa using bound⟩

/-- The variable of the plan that is worked on holds a value. -/
theorem ownerVar_ensures (ordinary : ∀ error, CompileError.Ordinary error → fail error)
    (owner : String) :
    Ensures fail (ownerVar owner) session fun var after => after.Holds var := by
  intro _
  simp only [ownerVar, get_bind]
  cases found : session.bindings.get? owner with
  | none => exact ⟨.refl session, ordinary _ trivial⟩
  | some var => exact ⟨.refl session, owner, Bindings.mem_of_get? found⟩

/-- A plan gets a variable for a statement that reads known values. -/
theorem define_ensures (ordinary : ∀ error, CompileError.Ordinary error → fail error)
    {owner : String} (defines : ∀ var, (build var).defines = some var)
    (reads : ∀ result, ∀ var ∈ (build result).uses, session.Holds var) :
    Ensures fail (define owner type build) session fun var after => after.Holds var := by
  intro orderly
  rw [define_eq (defines _) (orderly.reads_defined (reads _))]
  -- The plan may have a variable, and else the test may be complete.
  by_cases bound : session.bindings.isBound owner = true
  · rw [if_pos bound]
    exact ⟨.refl session, ordinary _ trivial⟩
  by_cases terminated : session.terminated = true
  · rw [if_neg bound, if_pos terminated]
    exact ⟨.one (.declare terminated), ordinary _ trivial⟩
  rw [if_neg bound, if_neg terminated]
  -- A statement with a result does not assign an element.
  have ready : Ready session (some (owner, type)) (build session.nextVar) := {
    running := by simpa using terminated
    unbound := by rintro _ _ ⟨⟩; simpa using bound
    defines := defines _
    inside := fun array index value same => by
      have defines := defines session.nextVar
      rw [same] at defines
      cases defines }
  exact ⟨.one (.append ready (reads _)), owner, by simp [Compilation.appended, Compilation.bound]⟩

/-- A statement without a result is appended, or refused for the element it assigns. -/
theorem emit_ensures (ordinary : ∀ error, CompileError.Ordinary error → fail error)
    (defines : statement.defines = none) (reads : ∀ var ∈ statement.uses, session.Holds var) :
    Ensures fail (emit statement) session fun _ _ => True := by
  intro orderly
  by_cases terminated : session.terminated = true
  · rw [emit_of_terminated terminated]
    exact ⟨.refl session, ordinary _ trivial⟩
  have running : session.terminated = false := by simpa using terminated
  rw [emit_of_running running]
  cases appended : session.test.append statement with
  | error error =>
    -- The statement defines nothing, so only its target can be refused.
    have fresh : ∀ var, statement.defines = some var → session.test.Fresh var := by
      rw [defines]
      nofun
    exact ⟨.refl session, ordinary (.testCase error)
      (TestCase.ofElement_of_append_eq_error (orderly.reads_defined reads) fresh appended)⟩
  | ok test =>
    obtain ⟨accepted, rfl⟩ := TestCase.append_eq_ok_iff.mp appended
    have ready : Ready session none statement := {
      running
      unbound := fun _ _ absent => by cases absent
      defines
      inside := accepted.target_inside }
    exact ⟨.one (.append ready reads), trivial⟩

/-- A statement that reads known values is appended, for a plan when one is given. -/
theorem append_ensures (ordinary : ∀ error, CompileError.Ordinary error → fail error)
    {owner : Option (String × RuntimeType)} {build : Option Var → Statement}
    (defines : ∀ result, (build result).defines = result)
    (reads : ∀ result, ∀ var ∈ (build result).uses, session.Holds var) :
    Ensures fail (append owner build) session fun _ _ => True := by
  cases owner with
  | none => exact emit_ensures ordinary (defines none) (reads none)
  | some owner =>
    -- With a plan, the statement defines the new variable that the plan is bound to.
    exact (define_ensures ordinary (fun var => defines var) fun result => reads result).bind
      fun _ _ _ _ => .pure trivial

/-- A statement that makes a value is appended together with the one that the value is for. -/
theorem both_ensures (ordinary : ∀ error, CompileError.Ordinary error → fail error)
    (owner : Option (String × RuntimeType)) {first : Var → Statement}
    {second : Var → Option Var → Statement} {others : List Var}
    (defines : ∀ var, (first var).defines = some var)
    (reads : ∀ result, ∀ var ∈ (first result).uses, session.Holds var)
    (defines' : ∀ var result, (second var result).defines = result)
    (uses : ∀ var result, (second var result).uses = var :: others)
    (reads' : ∀ var ∈ others, session.Holds var)
    (passes : ∀ var result, owner.isSome = result.isSome →
      Passes var (first var) (second var result))
    (orphan : ∀ name type, owner = some (name, type) → session.bindings.isBound name = true →
      ∃ handle args, ∀ var, first var = .method handle none args (some var)) :
    Ensures fail (temporary type first >>= fun var => append owner (second var)) session
      fun _ _ => True := by
  intro orderly
  have made := @temporary_eq ρ session type first (defines _)
    (orderly.reads_defined (reads _))
  by_cases terminated : session.terminated = true
  · rw [if_pos terminated] at made
    rw [bind_of_error made]
    exact ⟨.one (.declare terminated), ordinary _ trivial⟩
  rw [if_neg terminated] at made
  rw [bind_of_ok made]
  have running : session.terminated = false := by simpa using terminated
  -- The second statement reads the new variable and what was known before.
  have known : ∀ result, ∀ var ∈ (second session.nextVar result).uses,
      (session.produced type (first session.nextVar)).test.Defined var := by
    intro result
    rw [uses]
    exact orderly.reads_produced running (defines _) reads'
  by_cases bound : ∃ name type', owner = some (name, type') ∧ session.bindings.isBound name = true
  · obtain ⟨name, type', rfl, bound⟩ := bound
    -- The first statement stays behind, which the plan only allows for an array.
    have refused : append (some (name, type')) (second session.nextVar)
        (session.produced type (first session.nextVar)) = .error (.duplicateBinding name) _ :=
      append_of_bound bound
    rw [refused]
    obtain ⟨handle, args, same⟩ := orphan name type' rfl bound
    have reads := reads session.nextVar
    rw [same] at reads ⊢
    exact ⟨.one (.allocate running (by simpa [Statement.uses] using reads)), ordinary _ trivial⟩
  · -- The second statement goes with the first one, so both are one move.
    have passes := passes session.nextVar
      (owner.map fun _ => (session.produced type (first session.nextVar)).nextVar) (by simp)
    have ready : Ready (session.produced type (first session.nextVar)) owner
        (second session.nextVar
          (owner.map fun _ => (session.produced type (first session.nextVar)).nextVar)) := {
      running
      unbound := fun name type' same => by
        rw [← Bool.not_eq_true]
        exact fun found => bound ⟨name, type', same, found⟩
      defines := defines' _ _
      inside := fun array index value same => (passes.ne_element array index value same).elim }
    rw [append_of_ready ready (known _)]
    exact ⟨.one (.appendBoth running (defines _) (reads _) ready passes (uses _ _) reads'),
      trivial⟩

end Lower

end TestPlan
