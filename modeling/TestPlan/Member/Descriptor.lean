import TestPlan.Member.Basic
import TestPlan.ValueType.Descriptor

/-! Reading method descriptors. -/

namespace TestPlan.MethodReference

/-- The parameter types from a position up to the closing parenthesis at another. -/
def parametersAt (text : String) (close position : Nat) :
    Except DescriptorError (List ValueType) :=
  if position < close then
    match _found : ValueType.typeAt text position with
    | .error error => .error error
    | .ok (type, next) =>
      -- A parameter is not void and does not reach past the closing parenthesis.
      if type.isVoid || close < next then .error (.malformedMethod text)
      else (type :: ·) <$> parametersAt text close next
  else .ok []
termination_by close - position
decreasing_by
  have := ValueType.lt_of_scanAt (ValueType.typeAt_eq_ok_iff.mp _found)
  omega

/-- The first closing parenthesis of a text that begins with an opening one. -/
def close? (text : String) : Option Nat :=
  if text.startsWith '(' then indexOf? text ')' else none

/-- The parameter and result types that a whole text describes. -/
def typesOfDescriptor (text : String) :
    Except DescriptorError (List ValueType × ValueType) := do
  match close? text with
  | none => throw (.malformedMethod text)
  | some close =>
    let params ← parametersAt text close 1
    let (returns, next) ← ValueType.typeAt text (close + 1)
    if next = text.utf8ByteSize then return (params, returns)
    throw (.trailingInput text)

/-- The method whose types a whole text describes. -/
def ofDescriptor (owner name descriptor : String) (isStatic : Bool) :
    Except DescriptorError MethodReference := do
  let (params, returns) ← typesOfDescriptor descriptor
  return ⟨owner, name, params, returns, isStatic⟩

end TestPlan.MethodReference
