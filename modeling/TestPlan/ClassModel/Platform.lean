import TestPlan.ClassModel.Loader

/-! The platform classes that every host layer defines. -/

namespace TestPlan

/-- The box classes, each with the primitive type it boxes. -/
def boxClasses : List (String × String) :=
  [("java.lang.Boolean", "boolean"), ("java.lang.Byte", "byte"),
    ("java.lang.Character", "char"), ("java.lang.Short", "short"),
    ("java.lang.Integer", "int"), ("java.lang.Long", "long"),
    ("java.lang.Float", "float"), ("java.lang.Double", "double")]

/-- The definition of a box class. -/
def boxDefinition (name primitive : String) : ClassDefinition :=
  ClassDefinition.ofName name
    |>.withConstructor [primitive]
    |>.withMethod "valueOf" [primitive] name true
    |>.withField "TYPE" classClass true

/-- The definitions of the platform classes. -/
def platformClasses : List ClassDefinition :=
  [ClassDefinition.ofName objectClass
      |>.extending none
      |>.withConstructor []
      |>.withMethod "getClass" [] classClass
      |>.withMethod "hashCode" [] "int"
      |>.withMethod "equals" [objectClass] "boolean"
      |>.withMethod "toString" [] stringClass,
    ClassDefinition.ofName classClass
      |>.withMethod "getName" [] stringClass
      |>.withMethod "forName" [stringClass] classClass true,
    ClassDefinition.ofName stringClass
      |>.withConstructor []
      |>.withMethod "length" [] "int",
    ClassDefinition.ofName enumClass
      |>.withMethod "name" [] stringClass
      |>.withMethod "ordinal" [] "int",
    ClassDefinition.ofName reflectArrayClass
      |>.withMethod "newInstance" [classClass, "int"] objectClass true
      |>.withMethod "getLength" [objectClass] "int" true]
    ++ boxClasses.map fun (name, primitive) => boxDefinition name primitive

/-- The platform classes as a source. -/
def platformSource : ClassSource :=
  .ofList platformClasses

end TestPlan
