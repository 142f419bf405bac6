import TestPlan.Demo.Classes
import TestPlan.Plan.Basic
import TestPlan.TestCase.Basic

/-! Shorthands for plans over the demo classes, and views of the tests compiled from them. -/

namespace TestPlan.Demo

/-- A plan of an integer. -/
def int (name : String) (value : Int32) : Plan :=
  .mk name (.primitive (.int value))

/-- A plan of a long integer. -/
def long (name : String) (value : Int64) : Plan :=
  .mk name (.primitive (.long value))

/-- A plan of a number that is undefined, and so equals no number. -/
def undefinedNumber (name : String) : Plan :=
  .mk name (.primitive (.double ⟨0x7ff8000000000000⟩))

/-- A plan of null. -/
def null (name : String) : Plan :=
  .mk name (.primitive .null)

/-- A plan of a text. -/
def text (name value : String) : Plan :=
  .mk name (.text value)

/-- A plan of a point with the given plans as coordinates. -/
def pointFrom (name : String) (x y : Plan) : Plan :=
  .mk name (.actions [.constructorCall pointConstructor [x, y]])

/-- A plan of a point, with plans for its coordinates that are named after it. -/
def pointAt (name : String) (x y : Int32) : Plan :=
  pointFrom name (int (name ++ ".x") x) (int (name ++ ".y") y)

/-- A plan of an array of integers, with plans for its elements that are named after it. -/
def intArray (name : String) (values : List Int32) : Plan :=
  .mk name (.actions [.newArrayWithInitializer (.array intType)
    (values.zipIdx.map fun (value, position) =>
      int (name ++ "[" ++ toString position ++ "]") value)])

/-- A plan of a point made without a constructor, in which a box's number is set. -/
def hidingPoint (name : String) (value : Int32) : Plan :=
  .mk name (.reflection [.newInstance pointType, .setField boxSecret (int "i" value)])

/-- Plans whose tests can be compiled together: two points and an array. -/
def samples (name : String) (x y : Int32) (values : List Int32) : List Plan :=
  [pointAt name x y, intArray (name ++ "s") values, hidingPoint (name ++ "!") x]

/-- The sorts of all statements of a test, in order. -/
def kinds (test : TestCase) : List StatementKind :=
  test.statements.map Statement.kind

/-- The names of the helper routines that a test calls, in order. -/
def helperNames (test : TestCase) : List String :=
  test.statements.filterMap fun
    | .reflection helper _ _ => some helper.name
    | _ => none

end TestPlan.Demo
