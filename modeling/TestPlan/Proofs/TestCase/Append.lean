import TestPlan.Proofs.Runs
import TestPlan.TestCase.Basic

/-! When a statement is accepted, and what a test case is made of afterwards. -/

namespace TestPlan

/-- What is known about a variable once a statement at a position has defined it. -/
def Variable.definedBy (known : Variable) (statement : Statement) (position : Nat) : Variable :=
  { known with
    definedAt := some position
    arrayLength := (TestCase.allocatedLength statement).or known.arrayLength }

/-- Whether a refusal is about the target of an assignment to an element. -/
def TestCaseError.ofElement : TestCaseError → Bool
  | .notAnArray _
  | .indexOutOfBounds _ _ _ => true
  | _ => false

namespace TestCase

/-- The position of the statement that defines a variable. -/
def definedAt? (test : TestCase) (var : Var) : Option Nat :=
  (test.info? var).bind Variable.definedAt

/-- The length that is known of an array variable. -/
def lengthOf? (test : TestCase) (var : Var) : Option Nat :=
  (test.info? var).bind Variable.arrayLength

/-- A variable that a statement of the test case defines. -/
def Defined (test : TestCase) (var : Var) : Prop :=
  ∃ position, test.definedAt? var = some position

/-- A declared variable that no statement defines. -/
def Fresh (test : TestCase) (var : Var) : Prop :=
  ∃ known, test.info? var = some known ∧ known.definedAt = none

/-- An array with room for an index, as far as its length is known. -/
def HasElement (test : TestCase) (array : Var) (index : Nat) : Prop :=
  ∃ known, test.info? array = some known ∧ known.type.isArray = true ∧
    ∀ length, known.arrayLength = some length → index < length

/-- What a test case asks of the next statement. -/
structure Accepts (test : TestCase) (statement : Statement) : Prop where
  uses_defined : ∀ var ∈ statement.uses, test.Defined var
  target_inside : ∀ array index value,
    statement = .assignment (.element array index) value → test.HasElement array index
  defines_fresh : ∀ var, statement.defines = some var → test.Fresh var

/-- The test case with one more statement. -/
def extended (test : TestCase) (statement : Statement) : TestCase where
  statements := test.statements ++ [statement]
  declared := match statement.defines with
    | none => test.declared
    | some var => test.declared.modify var.index (·.definedBy statement test.size)

/-- A statement declares no variable. -/
@[simp] theorem length_declared_extended (test : TestCase) (statement : Statement) :
    (test.extended statement).declared.length = test.declared.length := by
  unfold extended
  cases statement.defines with
  | none => rfl
  | some var => simp

/-! ### Acceptance -/

/-- A variable passes the check of a read exactly when it is defined. -/
theorem checkUse_eq_ok_iff {test : TestCase} {var : Var} :
    test.checkUse var = .ok () ↔ test.Defined var := by
  -- The check looks for a declaration first and for a definition second.
  unfold checkUse Defined definedAt?
  cases test.info? var with
  | none => simp
  | some known =>
    rcases known with ⟨type, _ | position, length⟩
    · simp
    · simp

/-- All reads pass exactly when every variable that is read is defined. -/
theorem forM_checkUse_eq_ok_iff {test : TestCase} {vars : List Var} :
    vars.forM test.checkUse = .ok () ↔ ∀ var ∈ vars, test.Defined var := by
  simp only [forM_eq_ok_iff, checkUse_eq_ok_iff]

/-- An index passes exactly when the array has room for it. -/
theorem checkIndex_eq_ok_iff {test : TestCase} {array : Var} {index : Nat} :
    test.checkIndex array index = .ok () ↔ test.HasElement array index := by
  -- What is checked is the declaration, then the type, then a length if one is known.
  unfold checkIndex HasElement
  cases test.info? array with
  | none => simp
  | some known =>
    by_cases isArray : known.type.isArray = true
    · -- An array of unknown length has room for every index.
      rcases known with ⟨type, definedAt, _ | length⟩
      · simp_all
      · by_cases outside : length ≤ index
        · simp [isArray, outside]
        · simp_all
    · simp [isArray]

/-- Only assignments to elements have a target to check. -/
theorem checkTarget_eq_ok_iff {test : TestCase} {statement : Statement} :
    test.checkTarget statement = .ok () ↔ ∀ array index value,
      statement = .assignment (.element array index) value → test.HasElement array index := by
  unfold checkTarget
  split
  · rename_i array index value
    rw [checkIndex_eq_ok_iff]
    constructor
    · rintro inside _ _ _ ⟨⟩
      exact inside
    · exact fun inside => inside array index value rfl
  · -- No other statement has a target, so there is nothing to ask for.
    rename_i other
    simp only [true_iff]
    exact fun array index value same => (other array index value same).elim

/-- Replacing an entry by its image is the same as changing it in place. -/
private theorem set_eq_modify {α : Type} (change : α → α) {entries : List α} {index : Nat}
    {entry : α} (found : entries[index]? = some entry) :
    entries.set index (change entry) = entries.modify index change := by
  -- Both lists agree at every index, the changed one included.
  apply List.ext_getElem?
  intro other
  rw [List.getElem?_modify]
  by_cases same : index = other
  · subst same
    obtain ⟨inside, rfl⟩ := List.getElem?_eq_some_iff.mp found
    simp [inside]
  · simp [same]

/-- The variables are updated exactly when the result of the statement is fresh. -/
theorem defineResult_eq_ok_iff {test : TestCase} {statement : Statement}
    {declared : List Variable} :
    test.defineResult statement = .ok declared ↔
      (∀ var, statement.defines = some var → test.Fresh var) ∧
        declared = (test.extended statement).declared := by
  unfold defineResult extended Fresh
  cases statement.defines with
  | none => simp [eq_comm]
  | some var =>
    cases found : test.info? var with
    -- An undeclared variable is not fresh, and neither is one with a definition.
    | none => simp [found]
    | some known =>
      cases first : known.definedAt with
      | some position => simp [found, first]
      | none =>
        have same := set_eq_modify (·.definedBy statement test.size) found
        simp only [Variable.definedBy] at same
        simp only [found, first, same, Except.ok.injEq, Option.some.injEq, forall_eq',
          Variable.definedBy, exists_eq_left', true_and]
        exact eq_comm

/-- A statement is appended exactly when it is accepted, and then nothing else changes. -/
theorem append_eq_ok_iff {test after : TestCase} {statement : Statement} :
    test.append statement = .ok after ↔
      test.Accepts statement ∧ after = test.extended statement := by
  -- The checks are made in the order of the conditions, and each must pass.
  constructor
  · intro appended
    -- A check that fails is the result, so each split leaves only the passing side.
    simp only [append, Bind.bind, Except.bind] at appended
    split at appended
    · cases appended
    rename_i uses
    split at appended
    · cases appended
    rename_i target
    split at appended
    · cases appended
    rename_i declared result
    obtain ⟨fresh, rfl⟩ := defineResult_eq_ok_iff.mp result
    cases appended
    exact ⟨⟨forM_checkUse_eq_ok_iff.mp uses, checkTarget_eq_ok_iff.mp target, fresh⟩, rfl⟩
  · rintro ⟨accepted, rfl⟩
    have uses := forM_checkUse_eq_ok_iff.mpr accepted.uses_defined
    have target := checkTarget_eq_ok_iff.mpr accepted.target_inside
    have result := defineResult_eq_ok_iff.mpr ⟨accepted.defines_fresh, rfl⟩
    simp only [append, uses, target, result, Bind.bind, Except.bind]
    rfl

/-- A statement that reads and defines what it may is refused only for the element it assigns. -/
theorem ofElement_of_append_eq_error {test : TestCase} {statement : Statement}
    {error : TestCaseError} (reads : ∀ var ∈ statement.uses, test.Defined var)
    (fresh : ∀ var, statement.defines = some var → test.Fresh var)
    (refused : test.append statement = .error error) : error.ofElement = true := by
  have uses := forM_checkUse_eq_ok_iff.mpr reads
  have result := defineResult_eq_ok_iff.mpr ⟨fresh, rfl⟩
  -- Only the check of the target is left to fail, and the array of a target is read.
  cases target : test.checkTarget statement with
  | ok _ =>
    simp only [append, uses, target, result, Bind.bind, Except.bind] at refused
    cases refused
  | error found =>
    simp only [append, uses, target, Bind.bind, Except.bind, Except.error.injEq] at refused
    subst refused
    unfold checkTarget at target
    split at target
    · rename_i array index value
      -- The array is declared, so the check gets past that point.
      obtain ⟨position, defined⟩ := reads array (by simp [Statement.uses])
      obtain ⟨known, declared, _⟩ := Option.bind_eq_some_iff.mp defined
      simp only [checkIndex, declared] at target
      split at target
      · -- The variable is no array.
        cases target
        rfl
      · -- The index is outside the array, or nothing is refused.
        split at target
        · split at target
          · cases target
            rfl
          · cases target
        · cases target
    · cases target

end TestCase

end TestPlan
