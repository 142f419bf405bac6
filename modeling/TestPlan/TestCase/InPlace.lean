import TestPlan.TestCase.Basic

/-! Appending to a test case in place, where checks and changes take turns. -/

namespace TestPlan

/-- A change of a test case in place, which leaves what it has changed when it fails. -/
abbrev Editing := EStateM TestCaseError TestCase

namespace TestCase

/-- Goes on if the test case passes a check as it is now. -/
def require (check : TestCase → Except TestCaseError Unit) : Editing Unit := do
  match check (← get) with
  | .ok () => return ()
  | .error error => throw error

/-- Changes what is known about a variable. -/
def update (var : Var) (change : Variable → Variable) : Editing Unit :=
  modify fun test => { test with declared := test.declared.modify var.index change }

/-- Records where a fresh variable is defined, and then its length if it is a new array. -/
def recordDefinition (var : Var) (statement : Statement) : Editing Unit := do
  let position := (← get).size
  update var fun known => { known with definedAt := some position }
  match allocatedLength statement with
  | some length => update var fun known => { known with arrayLength := some length }
  | none => return ()

/-- Records the next statement as the definition of its result, which must be fresh. -/
def recordResult (statement : Statement) : Editing Unit := do
  match statement.defines with
  | none => return ()
  | some var =>
    match (← get).info? var with
    | none => throw (.unknownVariable var)
    | some known =>
      match known.definedAt with
      | some first => throw (.redefinition var first)
      | none => recordDefinition var statement

/-- Appends a statement in place, and gives its position. -/
def add (statement : Statement) : Editing Nat := do
  let position := (← get).size
  statement.uses.forM fun var => require (·.checkUse var)
  require (·.checkTarget statement)
  recordResult statement
  modify fun test => { test with statements := test.statements ++ [statement] }
  return position

end TestCase

end TestPlan
