import TestPlan.Lowering.Error

/-! The variables that hold the values of plans. -/

namespace TestPlan

/-- The variables bound to plan names, in the order of binding, and the plans compiled so far. -/
structure Bindings where
  bound : List (String × Var) := []
  /-- The names of the plans compiled to the end, with or without a value. -/
  completed : List String := []
  deriving DecidableEq

namespace Bindings

/-- The variable bound to a name. -/
def get? (bindings : Bindings) (name : String) : Option Var :=
  bindings.bound.lookup name

/-- Whether a variable is bound to a name. -/
def isBound (bindings : Bindings) (name : String) : Bool :=
  (bindings.get? name).isSome

/-- Whether the plan of a name needs no more compiling. -/
def isCompiled (bindings : Bindings) (name : String) : Bool :=
  bindings.completed.contains name || bindings.isBound name

/-- The number of names bound. -/
def size (bindings : Bindings) : Nat :=
  bindings.bound.length

/-- Binds a name, which must not be bound yet. -/
def bind (bindings : Bindings) (name : String) (var : Var) : Except CompileError Bindings :=
  if bindings.isBound name then .error (.duplicateBinding name)
  else .ok { bindings with bound := bindings.bound ++ [(name, var)] }

/-- Records that the plan of a name is compiled. -/
def complete (bindings : Bindings) (name : String) : Bindings :=
  { bindings with completed := name :: bindings.completed }

end Bindings

end TestPlan
