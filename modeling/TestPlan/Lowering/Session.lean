import TestPlan.Config.Basic
import TestPlan.Lowering.Bindings
import TestPlan.Lowering.Resolve

/-! The state of a compilation, and the steps that every lowering is made of. -/

namespace TestPlan

/-- What a compilation has produced so far. -/
structure Compilation (ρ : Type) where
  loader : ρ
  test : TestCase := {}
  bindings : Bindings := {}
  /-- The names of the plans that are being compiled, the innermost first. -/
  active : List String := []
  /-- Whether the call under test has been appended. -/
  terminated : Bool := false

/-- A compilation with the layered loader. -/
abbrev Session := Compilation Loader

/-- A test case together with the variables of its plans. -/
structure CompiledTest where
  test : TestCase
  bindings : Bindings

namespace Compilation

variable {ρ : Type}

/-- The result of a compilation. -/
def compiled (session : Compilation ρ) : CompiledTest :=
  ⟨session.test, session.bindings⟩

/-- The compilation inside a plan. -/
def enter (session : Compilation ρ) (name : String) : Compilation ρ :=
  { session with active := name :: session.active }

/-- The compilation outside the innermost plan. -/
def leave (session : Compilation ρ) : Compilation ρ :=
  { session with active := session.active.tail }

end Compilation

/-- A step of a compilation, which keeps what it has done when it fails. -/
abbrev Lowering (ρ : Type) := EStateM CompileError (Compilation ρ)

/-- A step of a compilation with the layered loader. -/
abbrev Lower := Lowering Loader

namespace Lower

variable {ρ : Type}

/-- Looks something up through the loader of the compilation. -/
def resolve {α : Type} (lookup : Lookup ρ α) : Lowering ρ α := fun session =>
  match lookup session.loader with
  | .ok found loader => .ok found { session with loader }
  | .error error loader => .error error { session with loader }

/-- Goes on with a result, or fails with its error. -/
def ofExcept {α : Type} : Except CompileError α → Lowering ρ α
  | .ok result => return result
  | .error error => throw error

/-! ### Appending statements -/

/-- Appends a statement, unless the test has been completed by its call. -/
def emit (statement : Statement) : Lowering ρ Unit := do
  let session ← get
  if session.terminated then throw .afterTestCall
  match session.test.append statement with
  | .ok test => set { session with test }
  | .error error => throw (.testCase error)

/-- Appends a statement whose result goes into a new variable. -/
def temporary (type : RuntimeType) (build : Var → Statement) : Lowering ρ Var := do
  let (var, test) := (← get).test.declare type
  modify fun session => { session with test }
  emit (build var)
  return var

/-- Requires that a plan has no value yet. -/
def ensureUnbound (owner : String) : Lowering ρ Unit := do
  if (← get).bindings.isBound owner then throw (.duplicateBinding owner)

/-- Appends a statement whose result is the value of a plan. -/
def define (owner : String) (type : RuntimeType) (build : Var → Statement) : Lowering ρ Var := do
  ensureUnbound owner
  let var ← temporary type build
  let bindings ← ofExcept ((← get).bindings.bind owner var)
  modify fun session => { session with bindings }
  return var

/-- Appends a statement whose result is the value of a plan when one is given. -/
def append (owner : Option (String × RuntimeType)) (build : Option Var → Statement) :
    Lowering ρ Unit := do
  match owner with
  | some (name, type) =>
    let _ ← define name type fun result => build (some result)
  | none => emit (build none)

/-- The variable of the plan that a step works on. -/
def ownerVar (owner : String) : Lowering ρ Var := do
  match (← get).bindings.get? owner with
  | some var => return var
  | none => throw (.unboundOwner owner)

/-! ### Compiling plans -/

/-- Carries out a step inside a plan, which is left again even when the step fails. -/
def within (name : String) (step : Lowering ρ Unit) : Lowering ρ Unit := fun session =>
  match step (session.enter name) with
  | .ok () session => .ok () session.leave
  | .error error session => .error error session.leave

/-- Requires that a plan is not being compiled, and that it is not nested too deep. -/
def checkNesting (config : CompilerConfig) (name : String) : Lowering ρ Unit := do
  let active := (← get).active
  if active.contains name then throw (.cyclicPlan name)
  match config.maxDepth with
  | some limit => if limit.toNat ≤ active.length then throw (.depthExceeded limit.toNat)
  | none => return ()

/-- Compiles a plan with the given body, unless that has been done. -/
def once (config : CompilerConfig) (name : String) (body : Lowering ρ Unit) :
    Lowering ρ Unit := do
  if (← get).bindings.isCompiled name then return ()
  checkNesting config name
  within name body
  modify fun session => { session with bindings := session.bindings.complete name }

end Lower

/-- The constant that a literal stands for, unless it is null. -/
def Literal.constant? : Literal → Option Constant
  | .null => none
  | .boolean value => some (.boolean value)
  | .byte value => some (.byte value)
  | .char value => some (.char value)
  | .short value => some (.short value)
  | .int value => some (.int value)
  | .long value => some (.long value)
  | .float value => some (.float value)
  | .double value => some (.double value)

namespace Lower

variable {ρ : Type} [ClassLoading ρ]

/-- A variable that holds nothing but null. -/
def nullVar : Lowering ρ Var := do
  temporary (← resolve (Resolve.typeNamed objectClass)) .null

/-- Gives a plan of a literal its own variable. -/
def literalLeaf (owner : String) (value : Literal) : Lowering ρ Var := do
  match value.constant? with
  | some constant =>
    let type := (constant.primitive?.map RuntimeType.primitive).getD .void
    define owner type (.constant constant)
  | none => define owner (← resolve (Resolve.typeNamed objectClass)) .null

/-- Gives a plan of a text its own variable. -/
def textLeaf (owner text : String) : Lowering ρ Var := do
  define owner (← resolve (Resolve.typeNamed stringClass)) (.constant (.text text))

/-- The index or length that a literal plan stands for. -/
def literalIndex (plan : Plan) : Except CompileError Nat :=
  match plan.kind with
  | .primitive value =>
    match value.asInt? >>= Int.toNat? with
    | some index => .ok index
    | none => .error (.nonLiteralIndex plan.name)
  | _ => .error (.nonLiteralIndex plan.name)

/-- The array type that a type of a plan stands for. -/
def arrayType (owner : String) (type : ValueType) : Lowering ρ RuntimeType := do
  let found ← resolve (Resolve.runtimeType type)
  if !found.isArray then throw (.notAnArrayType owner found)
  return found

end Lower

end TestPlan
