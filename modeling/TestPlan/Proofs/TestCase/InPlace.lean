import TestPlan.Proofs.TestCase.Coherence
import TestPlan.TestCase.InPlace

/-! A statement appended in place is appended as a whole, or the test case stays as it is. -/

namespace TestPlan.TestCase

/-! ### Checks -/

/-- The outcome of a check in place: it changes nothing, whether it passes or fails. -/
def outcome (test : TestCase) :
    Except TestCaseError Unit → EStateM.Result TestCaseError TestCase Unit
  | .ok () => .ok () test
  | .error error => .error error test

/-- A check in place has the outcome of the check. -/
theorem require_eq (check : TestCase → Except TestCaseError Unit) (test : TestCase) :
    require check test = test.outcome (check test) := by
  unfold require
  rw [get_bind]
  -- The state is read once, and then only returned.
  cases check test <;> rfl

/-- Reads that are checked in place one by one have the outcome of the check of all of them. -/
theorem forM_require_eq (vars : List Var) (test : TestCase) :
    (vars.forM fun var => require (·.checkUse var)) test
      = test.outcome (vars.forM test.checkUse) := by
  rw [List.forM_eq_forM, List.forM_eq_forM]
  -- The induction is on the reads: the first check leaves the test case to the others as it was.
  induction vars with
  | nil => rfl
  | cons var rest ih =>
    rw [List.forM_cons, List.forM_cons]
    have first := require_eq (·.checkUse var) test
    cases checked : test.checkUse var with
    | error error =>
      rw [checked] at first
      exact bind_of_error first
    | ok _ =>
      rw [checked] at first
      rw [bind_of_ok first, ih]
      rfl

/-! ### The result -/

/-- The position and the length of a variable are recorded as if at once. -/
theorem recordDefinition_eq (var : Var) (statement : Statement) (test : TestCase) :
    recordDefinition var statement test = .ok ()
      { test with
        declared := test.declared.modify var.index (·.definedBy statement test.size) } := by
  unfold recordDefinition
  rw [get_bind]
  cases allocated : allocatedLength statement with
  | none =>
    have same : (Variable.definedBy · statement test.size)
        = fun known => { known with definedAt := some test.size } := by
      funext known
      simp [Variable.definedBy, allocated]
    rw [same]
    rfl
  | some length =>
    -- The second change finds the variable as the first one has left it.
    have same : (Variable.definedBy · statement test.size)
        = (fun known => { known with arrayLength := some length }) ∘
          fun known => { known with definedAt := some test.size } := by
      funext known
      simp [Variable.definedBy, allocated]
    rw [same, ← List.modify_modify_eq]
    rfl

/-- A result that is recorded in place is recorded as it is for all variables at once. -/
theorem recordResult_eq (statement : Statement) (test : TestCase) :
    recordResult statement test = match test.defineResult statement with
      | .ok declared => .ok () { test with declared }
      | .error error => .error error test := by
  unfold recordResult
  -- There are two ways to fail, and both come before the first change.
  cases defines : statement.defines with
  | none =>
    simp only [defineResult, defines]
    rfl
  | some var =>
    simp only [get_bind]
    cases found : test.info? var with
    | none =>
      simp only [defineResult, defines, found]
      rfl
    | some known =>
      cases first : known.definedAt with
      | some position =>
        simp only [defineResult, defines, found, first]
        rfl
      | none =>
        have fresh : ∀ result, statement.defines = some result → test.Fresh result := by
          intro result same
          cases defines.symm.trans same
          exact ⟨known, found, first⟩
        -- The variable is fresh, so that from here on nothing can fail.
        rw [defineResult_eq_ok_iff.mpr ⟨fresh, rfl⟩]
        simp only [first, recordDefinition_eq, extended, defines]

/-! ### The whole statement -/

/-- Appending in place is appending: it gives the longer test case, or fails and changes nothing. -/
theorem add_eq_append (statement : Statement) (test : TestCase) :
    add statement test = match test.append statement with
      | .ok after => .ok test.size after
      | .error error => .error error test := by
  unfold add append
  rw [get_bind]
  -- The parts succeed and fail together with those of the other form, one after the other.
  have reads := forM_require_eq statement.uses test
  cases used : statement.uses.forM test.checkUse with
  | error error =>
    rw [used] at reads
    rw [bind_of_error reads]
    rfl
  | ok _ =>
    rw [used] at reads
    rw [bind_of_ok reads]
    have target := require_eq (·.checkTarget statement) test
    cases checked : test.checkTarget statement with
    | error error =>
      rw [checked] at target
      rw [bind_of_error target]
      rfl
    | ok _ =>
      rw [checked] at target
      rw [bind_of_ok target]
      have result := recordResult_eq statement test
      cases recorded : test.defineResult statement with
      | error error =>
        rw [recorded] at result
        rw [bind_of_error result]
        rfl
      | ok declared =>
        rw [recorded] at result
        rw [bind_of_ok result]
        rfl

/--
A statement is appended in place exactly when it is accepted. Then its position is the number of
statements before it, the statements are the old ones and the new one, and of the variables only
the one that it defines has changed: in its position, and in its length if an array is allocated.
Otherwise the test case is the same as before, statements and variables.
-/
theorem add_exact (test : TestCase) (statement : Statement) :
    match add statement test with
    | .ok position after =>
      test.Accepts statement ∧ position = test.size ∧
        after.statements = test.statements ++ [statement] ∧
        after.declared.length = test.declared.length ∧
        ∀ var, after.info? var =
          if statement.defines = some var then
            (test.info? var).map fun known =>
              { known with
                definedAt := some position
                arrayLength := (allocatedLength statement).or known.arrayLength }
          else test.info? var
    | .error _ after => ¬ test.Accepts statement ∧ after = test := by
  rw [add_eq_append]
  cases appended : test.append statement with
  | error error =>
    refine ⟨fun accepted => ?_, rfl⟩
    -- An accepted statement would have been appended.
    rw [append_eq_ok_iff.mpr ⟨accepted, rfl⟩] at appended
    cases appended
  | ok after =>
    obtain ⟨accepted, rfl⟩ := append_eq_ok_iff.mp appended
    exact ⟨accepted, rfl, rfl, length_declared_extended test statement,
      info?_extended test statement⟩

end TestPlan.TestCase
