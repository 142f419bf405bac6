import TestPlan.Number.Digits

/-! Scalars of a notation that leaves their type to the reader. -/

namespace TestPlan

/-- How a scalar is written. -/
inductive ScalarStyle where
  | plain
  | quoted
  | literal
  | folded
  deriving DecidableEq, Repr

/-- A scalar: how it is written, the tag before it, and its text. -/
structure Scalar where
  style : ScalarStyle
  tag : Option String
  text : String
  deriving DecidableEq, Repr

namespace Scalar

/-- What the tags of the usual types start with. -/
def usualTags : String := "tag:yaml.org,2002:"

/-- A plain scalar without a text, which is what stands where a node is left out. -/
def empty : Scalar := ⟨.plain, none, ""⟩

/-- Whether nothing is written where the scalar stands, but perhaps a tag. -/
def isEmpty (scalar : Scalar) : Bool :=
  scalar.style == .plain && scalar.text.isEmpty

/-- Whether the scalar may be read as a value of a usual type and not only as a text. -/
def mayBe (scalar : Scalar) (type : String) : Bool :=
  match scalar.style with
  | .plain => true
  | .literal => scalar.tag == some (usualTags ++ type)
  | .quoted | .folded => false

/-- Whether a text spells the absence of a value. -/
def spellsNull (text : String) : Bool :=
  ["~", "null", "Null", "NULL"].contains text

/-- Whether no value is given, where one may be left out; a null tag allows no other text. -/
def isAbsent? (scalar : Scalar) : Option Bool :=
  match scalar.style, scalar.tag with
  | .plain, none => some (scalar.text.isEmpty || spellsNull scalar.text)
  | .plain, some tag =>
    if tag ≠ usualTags ++ "null" then some false
    else if spellsNull scalar.text then some true
    else none
  | _, _ => some false

/-- The truth value that a text spells. -/
def spelledBoolean? (text : String) : Option Bool :=
  if ["true", "True", "TRUE"].contains text then some true
  else if ["false", "False", "FALSE"].contains text then some false
  else none

/-- The natural number that a text spells, in base ten unless a marker names another. -/
def spelledNatural? (text : String) : Option Nat :=
  let unsigned := match text.toList with
    | '+' :: rest => rest
    | all => all
  let marked := match unsigned with
    | '0' :: 'x' :: rest => Digits.natural? 16 rest
    | '0' :: 'o' :: rest => Digits.natural? 8 rest
    | '0' :: 'b' :: rest => Digits.natural? 2 rest
    | _ => none
  match marked, unsigned with
  | some value, _ => some value
  -- A leading zero before more digits makes the scalar a text.
  | none, '0' :: _ :: _ => none
  | none, digits => Digits.natural? 10 digits

/-- The truth value of the scalar. -/
def boolean? (scalar : Scalar) : Option Bool :=
  if scalar.mayBe "bool" then spelledBoolean? scalar.text else none

/-- The natural number of the scalar. -/
def natural? (scalar : Scalar) : Option Nat :=
  if scalar.mayBe "int" then spelledNatural? scalar.text else none

end Scalar

end TestPlan
