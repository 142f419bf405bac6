import TestPlan.ValueType.Scan

/-! Texts that are type descriptors as a whole, and why others are refused. -/

namespace TestPlan

/-- Why a descriptor is refused; each cause carries the whole text. -/
inductive DescriptorError where
  | malformedType (text : String)
  | malformedMethod (text : String)
  | trailingInput (text : String)
  deriving DecidableEq, Repr

/-- The wording of a refusal. -/
def DescriptorError.message : DescriptorError → String
  | .malformedType text => "malformed type descriptor `" ++ text ++ "`"
  | .malformedMethod text => "malformed method descriptor `" ++ text ++ "`"
  | .trailingInput text => "trailing input in descriptor `" ++ text ++ "`"

namespace ValueType

/-- The type at a position of a text, which is refused when there is none. -/
def typeAt (text : String) (position : Nat) : Except DescriptorError (ValueType × Nat) :=
  match scanned : scanAt text position with
  | .ok found => .ok found
  | .error .malformed => .error (.malformedType text)
  | .error .misplaced => absurd scanned (scanAt_ne_misplaced text position)

variable {text : String} {position : Nat}

/-- A type is found when it is scanned. -/
theorem typeAt_eq_ok_iff {found : ValueType × Nat} :
    typeAt text position = .ok found ↔ scanAt text position = .ok found := by
  unfold typeAt
  split
  · simp_all
  · simp_all
  · exact absurd ‹_› (scanAt_ne_misplaced text position)

/-- A text without a type at the position is refused as a whole. -/
theorem typeAt_of_malformed (malformed : scanAt text position = .error .malformed) :
    typeAt text position = .error (.malformedType text) := by
  unfold typeAt
  split <;> simp_all

/-- The type that a whole text describes. -/
def ofDescriptor (text : String) : Except DescriptorError ValueType := do
  let (type, next) ← typeAt text 0
  if next = text.utf8ByteSize then return type
  throw (.trailingInput text)

end ValueType

end TestPlan
