/-! The types of values: primitive types, named classes, arrays and void. -/

namespace TestPlan

/-- A primitive type. -/
inductive Primitive where
  | boolean
  | byte
  | char
  | short
  | int
  | long
  | float
  | double
  deriving DecidableEq, Repr

namespace Primitive

/-- Every primitive type. -/
def all : List Primitive :=
  [.boolean, .byte, .char, .short, .int, .long, .float, .double]

/-- The keyword that names the type. -/
def keyword : Primitive → String
  | .boolean => "boolean"
  | .byte => "byte"
  | .char => "char"
  | .short => "short"
  | .int => "int"
  | .long => "long"
  | .float => "float"
  | .double => "double"

/-- The letter of the type in a descriptor. -/
def code : Primitive → Char
  | .boolean => 'Z'
  | .byte => 'B'
  | .char => 'C'
  | .short => 'S'
  | .int => 'I'
  | .long => 'J'
  | .float => 'F'
  | .double => 'D'

/-- The type with the given keyword. -/
def ofKeyword? (keyword : String) : Option Primitive :=
  all.find? (·.keyword == keyword)

/-- The type with the given descriptor letter. -/
def ofCode? (code : Char) : Option Primitive :=
  all.find? (·.code == code)

/-- The type that is found for a letter has that letter. -/
theorem code_of_ofCode? {code : Char} {type : Primitive} (found : ofCode? code = some type) :
    type.code = code := by
  have same := List.find?_some found
  exact beq_iff_eq.mp same

end Primitive

/-- A type as a construction plan names it, with classes in internal, slash-separated form. -/
inductive ValueType where
  | void
  | primitive (type : Primitive)
  | object (className : String)
  | array (component : ValueType)
  deriving DecidableEq, Repr

/-- The internal form of a class name, with slashes for dots. -/
def internalName (name : String) : String :=
  name.map fun c => if c == '.' then '/' else c

/-- The binary form of a class name, with dots for slashes. -/
def binaryName (name : String) : String :=
  name.map fun c => if c == '/' then '.' else c

namespace ValueType

/-- The type of a class named in either form. -/
def ofClassName (name : String) : ValueType :=
  .object (internalName name)

/-- Whether the type is void itself. -/
def isVoid (type : ValueType) : Bool :=
  type == .void

/-- The type in readable form: keyword or class name, then brackets for each array level. -/
def display : ValueType → String
  | .void => "void"
  | .primitive type => type.keyword
  | .object className => className
  | .array component => component.display ++ "[]"

end ValueType

end TestPlan
