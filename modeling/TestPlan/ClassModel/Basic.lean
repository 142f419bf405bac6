/-! Class definitions of the program under test, with all types named by their binary names. -/

namespace TestPlan

/-- What sort of class a definition describes. -/
inductive ClassKind where
  | object
  | interface
  | enumeration
  deriving DecidableEq, Repr

/-- A constructor, known by its parameter types. -/
structure ConstructorDefinition where
  params : List String := []
  deriving DecidableEq, Repr

/-- A method with its parameter and result types. -/
structure MethodDefinition where
  name : String
  params : List String := []
  returns : String := "void"
  isStatic : Bool := false
  deriving DecidableEq, Repr

/-- A field with its type. -/
structure FieldDefinition where
  name : String
  type : String
  isStatic : Bool := false
  deriving DecidableEq, Repr

/-- A class with its superclass and declared members. -/
structure ClassDefinition where
  name : String
  kind : ClassKind := .object
  superclass : Option String := none
  constructors : List ConstructorDefinition := []
  methods : List MethodDefinition := []
  fields : List FieldDefinition := []
  enumConstants : List String := []
  deriving DecidableEq, Repr

/-- The class that every other one extends in the end. -/
def objectClass : String := "java.lang.Object"

/-- The class of class objects. -/
def classClass : String := "java.lang.Class"

/-- The class of texts. -/
def stringClass : String := "java.lang.String"

/-- The superclass of enum classes. -/
def enumClass : String := "java.lang.Enum"

/-- The class with routines for arrays of any type. -/
def reflectArrayClass : String := "java.lang.reflect.Array"

namespace ClassDefinition

/-- A class without members that extends the object class. -/
def ofName (name : String) : ClassDefinition :=
  { name, superclass := some objectClass }

/-- An enum class with the given constants. -/
def enumeration (name : String) (constants : List String) : ClassDefinition :=
  { name, kind := .enumeration, superclass := some enumClass, enumConstants := constants }

/-- Replaces the superclass. -/
def extending (definition : ClassDefinition) (superclass : Option String) : ClassDefinition :=
  { definition with superclass }

/-- Declares one more constructor. -/
def withConstructor (definition : ClassDefinition) (params : List String) : ClassDefinition :=
  { definition with constructors := definition.constructors ++ [⟨params⟩] }

/-- Declares one more method. -/
def withMethod (definition : ClassDefinition) (name : String) (params : List String)
    (returns : String) (isStatic : Bool := false) : ClassDefinition :=
  { definition with methods := definition.methods ++ [⟨name, params, returns, isStatic⟩] }

/-- Declares one more field. -/
def withField (definition : ClassDefinition) (name type : String)
    (isStatic : Bool := false) : ClassDefinition :=
  { definition with fields := definition.fields ++ [⟨name, type, isStatic⟩] }

/-- The declared constructor with exactly these parameter types. -/
def constructor? (definition : ClassDefinition) (params : List String) :
    Option ConstructorDefinition :=
  definition.constructors.find? (·.params == params)

/-- The first declared method with this name and exactly these parameter types. -/
def method? (definition : ClassDefinition) (name : String) (params : List String) :
    Option MethodDefinition :=
  definition.methods.find? fun method => method.name == name && method.params == params

/-- The first declared field with this name. -/
def field? (definition : ClassDefinition) (name : String) : Option FieldDefinition :=
  definition.fields.find? (·.name == name)

/-- The declared enum constant with this name. -/
def enumConstant? (definition : ClassDefinition) (name : String) : Option String :=
  definition.enumConstants.find? (· == name)

/-- Whether the class is an enum class. -/
def isEnum (definition : ClassDefinition) : Bool :=
  definition.kind == .enumeration

end ClassDefinition

end TestPlan
