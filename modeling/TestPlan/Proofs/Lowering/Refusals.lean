import TestPlan.Proofs.Lowering.Ensures
import TestPlan.Proofs.Lowering.Success

/-! Why the steps that every lowering is made of fail: for a name that is looked for, or not. -/

namespace TestPlan

variable {ρ α : Type}

/-- A failure that is found by looking for a name among the bindings or the active plans. -/
def CompileError.OfName : CompileError → Prop
  | .cyclicPlan _
  | .duplicateBinding _
  | .unboundOwner _
  | .noValue _ => True
  | _ => False

namespace Lower

variable {session after : Compilation ρ} {error : CompileError} {type : RuntimeType}
  {build : Var → Statement}

/-- What the classes lack is not looked for by the name of a plan. -/
theorem not_ofName_of_mismatch (mismatch : error.isClassModelMismatch = true) :
    ¬ error.OfName := by
  cases error <;> first | exact id | cases mismatch

/-- A statement is not refused for the name of a plan. -/
theorem not_ofName_of_emit {statement : Statement}
    (failed : emit statement session = .error error after) : ¬ error.OfName := by
  by_cases terminated : session.terminated = true
  · rw [emit_of_terminated terminated] at failed
    cases failed
    exact id
  · rw [emit_of_running (by simpa using terminated)] at failed
    split at failed <;> cases failed
    exact id

/-- A statement with a new variable is not refused for the name of a plan. -/
theorem not_ofName_of_temporary
    (failed : temporary type build session = .error error after) : ¬ error.OfName := by
  have steps : temporary type build session =
      (emit (build session.nextVar) >>= fun _ => pure session.nextVar) (session.declared type) :=
    rfl
  rw [steps] at failed
  rcases bind_eq_error_iff.mp failed with failed | ⟨_, _, _, ⟨⟩⟩
  exact not_ofName_of_emit failed

/-- A plan gets no variable if it has one, or for other reasons than its name. -/
theorem define_error {owner : String}
    (failed : define owner type build session = .error error after) :
    error = .duplicateBinding owner ∧ session.bindings.isBound owner = true ∨ ¬ error.OfName := by
  rcases bind_eq_error_iff.mp failed with refused | ⟨_, _, ensured, rest⟩
  · rw [ensureUnbound_eq] at refused
    split at refused <;> cases refused
    exact .inl ⟨rfl, ‹_›⟩
  obtain ⟨unbound, rfl⟩ := ensureUnbound_ok ensured
  rcases bind_eq_error_iff.mp rest with refused | ⟨_, _, made, rest⟩
  · exact .inr (not_ofName_of_temporary refused)
  -- The statement has bound nothing, so the plan still has no variable.
  obtain ⟨_, _, _, rfl⟩ := temporary_ok made
  rw [get_bind, Bindings.bind, if_neg (by simpa [Compilation.produced] using unbound)] at rest
  cases rest

/-- A plan that is worked on is missed only if it has no variable. -/
theorem ownerVar_error {owner : String} (failed : ownerVar owner session = .error error after) :
    error = .unboundOwner owner ∧ session.bindings.isBound owner = false := by
  rw [ownerVar, get_bind] at failed
  cases found : session.bindings.get? owner with
  | none =>
    rw [found] at failed
    cases failed
    exact ⟨rfl, by rw [Bindings.isBound, found]; rfl⟩
  | some var =>
    rw [found] at failed
    cases failed

/-- A plan that may not be entered is being compiled, or is refused for its depth. -/
theorem checkNesting_error {config : CompilerConfig} {name : String}
    (failed : checkNesting config name session = .error error after) :
    name ∈ session.active ∨ ¬ error.OfName := by
  by_cases active : session.active.contains name = true
  · exact .inl (by simpa using active)
  rw [checkNesting, get_bind, if_neg active] at failed
  -- All that is left is the limit, if there is one.
  cases limited : config.maxDepth with
  | none =>
    rw [limited] at failed
    cases failed
  | some limit =>
    simp only [limited] at failed
    split at failed <;> cases failed
    exact .inr id

/-- A lookup does not fail for the name of a plan. -/
theorem not_ofName_of_resolve [ClassLoading ρ] {lookup : Lookup ρ α} (plain : Plain lookup)
    (failed : resolve lookup session = .error error after) : ¬ error.OfName := by
  have loads := plain session.loader
  unfold resolve at failed
  split at failed
  · cases failed
  · rename_i looked
    cases failed
    rw [looked] at loads
    exact not_ofName_of_mismatch loads.2

end Lower

end TestPlan
