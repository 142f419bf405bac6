import TestPlan.TestCase.Statement

/-! Test cases: statements over typed variables, each defined once and before it is read. -/

namespace TestPlan

/-- What a test case knows about one of its variables. -/
structure Variable where
  type : RuntimeType
  /-- The position of the statement that gives the variable its value. -/
  definedAt : Option Nat := none
  /-- The length, when that statement allocates an array. -/
  arrayLength : Option Nat := none
  deriving DecidableEq, Repr

/-- Statements in order, and the variables in the order of their declaration. -/
structure TestCase where
  statements : List Statement := []
  declared : List Variable := []
  deriving DecidableEq

/-- Why a statement is not accepted. -/
inductive TestCaseError where
  | unknownVariable (var : Var)
  | forwardReference (var : Var) (position : Nat)
  | redefinition (var : Var) (first : Nat)
  | notAnArray (var : Var)
  | indexOutOfBounds (array : Var) (index length : Nat)
  deriving DecidableEq, Repr

/-- The wording of a refusal. -/
def TestCaseError.message : TestCaseError → String
  | .unknownVariable var => "unknown variable " ++ var.display
  | .forwardReference var position =>
    "statement " ++ toString position ++ " reads " ++ var.display ++ " before it is defined"
  | .redefinition var first =>
    var.display ++ " is already defined by statement " ++ toString first
  | .notAnArray var => var.display ++ " is not an array"
  | .indexOutOfBounds array index length =>
    "index " ++ toString index ++ " out of bounds for " ++ array.display ++ " of length "
      ++ toString length

namespace TestCase

/-- The number of statements. -/
def size (test : TestCase) : Nat :=
  test.statements.length

/-- Declares a variable that no statement defines yet. -/
def declare (test : TestCase) (type : RuntimeType) : Var × TestCase :=
  (⟨test.declared.length⟩, { test with declared := test.declared ++ [{ type }] })

/-- What is known about a variable, if it is declared. -/
def info? (test : TestCase) (var : Var) : Option Variable :=
  test.declared[var.index]?

/-- The type of a declared variable. -/
def typeOf? (test : TestCase) (var : Var) : Option RuntimeType :=
  (test.info? var).map Variable.type

/-- The name of the type of an operand, unless it is an undeclared variable. -/
def operandTypeName? (test : TestCase) : Operand → Option String
  | .var source => (test.typeOf? source).map RuntimeType.typeName
  | .constant value => some value.typeName

/-- Checks that a variable is declared and defined. -/
def checkUse (test : TestCase) (var : Var) : Except TestCaseError Unit :=
  match test.info? var with
  | none => .error (.unknownVariable var)
  | some known =>
    if known.definedAt.isNone then .error (.forwardReference var test.size) else .ok ()

/-- Checks that a variable is an array with room for an index. -/
def checkIndex (test : TestCase) (array : Var) (index : Nat) : Except TestCaseError Unit :=
  match test.info? array with
  | none => .error (.unknownVariable array)
  | some known =>
    if !known.type.isArray then .error (.notAnArray array)
    else
      match known.arrayLength with
      | some length =>
        if length ≤ index then .error (.indexOutOfBounds array index length) else .ok ()
      -- The length of an array from elsewhere is not known.
      | none => .ok ()

/-- Checks the target of an assignment to an element. -/
def checkTarget (test : TestCase) : Statement → Except TestCaseError Unit
  | .assignment (.element array index) _ => test.checkIndex array index
  | _ => .ok ()

/-- The length that a statement fixes for the array it allocates. -/
def allocatedLength : Statement → Option Nat
  | .newArray length _ => some length
  | _ => none

/-- The variables after a statement at the next position has defined its own. -/
def defineResult (test : TestCase) (statement : Statement) :
    Except TestCaseError (List Variable) :=
  match statement.defines with
  | none => .ok test.declared
  | some var =>
    match test.info? var with
    | none => .error (.unknownVariable var)
    | some known =>
      match known.definedAt with
      | some first => .error (.redefinition var first)
      | none =>
        let defined := { known with
          definedAt := some test.size
          arrayLength := (allocatedLength statement).or known.arrayLength }
        .ok (test.declared.set var.index defined)

/-- Appends a statement, which must read defined variables and define a new one. -/
def append (test : TestCase) (statement : Statement) : Except TestCaseError TestCase := do
  statement.uses.forM test.checkUse
  test.checkTarget statement
  let declared ← test.defineResult statement
  return ⟨test.statements ++ [statement], declared⟩

/-- The calls of the test case with their positions. -/
def attributions (test : TestCase) : List (Nat × Callable) :=
  test.statements.zipIdx.filterMap fun (statement, position) =>
    statement.attribution.map (position, ·)

/-- The first read of a variable that no earlier statement defines. -/
def firstForwardReference? (test : TestCase) : Option (Nat × Var) :=
  test.statements.zipIdx.findSome? fun (statement, position) =>
    statement.uses.findSome? fun var =>
      match (test.info? var).bind Variable.definedAt with
      | some defined => if defined < position then none else some (position, var)
      | none => some (position, var)

end TestCase

end TestPlan
