import TestPlan.ClassModel.Platform
import TestPlan.Member.Basic

/-! A small class model to try plans on: points, colours, boxes and a configuration. -/

namespace TestPlan.Demo

/-- The internal name of the class of points. -/
def point : String := "demo/Point"

/-- The internal name of the class of boxes. -/
def box : String := "demo/Box"

/-- The internal name of the class of settings. -/
def settings : String := "demo/Config"

/-- The definitions of the demo classes. -/
def classes : List ClassDefinition :=
  [ClassDefinition.ofName "demo.Point"
      |>.withConstructor []
      |>.withConstructor ["int", "int"]
      |>.withField "x" "int"
      |>.withField "y" "int"
      |>.withField "ORIGIN" "demo.Point" true
      |>.withMethod "setX" ["int"] "void"
      |>.withMethod "getX" [] "int"
      |>.withMethod "translate" ["int", "int"] "demo.Point"
      |>.withMethod "distance" ["demo.Point"] "double"
      |>.withMethod "of" ["int", "int"] "demo.Point" true
      |>.withMethod "sum" ["int[]"] "int" true,
    ClassDefinition.enumeration "demo.Color" ["RED", "GREEN", "BLUE"],
    ClassDefinition.ofName "demo.Box"
      |>.withConstructor [objectClass]
      |>.withField "value" objectClass
      |>.withField "secret" "int"
      |>.withMethod "get" [] objectClass,
    ClassDefinition.ofName "demo.Config"
      |>.withField "level" "int" true
      |>.withField "name" stringClass true
      |>.withMethod "reset" [] "void" true]

/-- The demo classes under the given ones of the runtime layer, above the platform classes. -/
def classSpace (runtime : List ClassDefinition) : ClassSpace where
  instrumented := [.ofList classes]
  runtime := [.ofList runtime]
  host := [platformSource]

/-- A loader for the demo classes. -/
def loader (runtime : List ClassDefinition) : Loader where
  space := classSpace runtime

/-! ### Types and members -/

/-- The type of integers. -/
def intType : ValueType := .primitive .int

/-- The type of points. -/
def pointType : ValueType := .object point

/-- The type of all objects. -/
def objectType : ValueType := .ofClassName objectClass

/-- The constructor of a point from its coordinates. -/
def pointConstructor : MethodReference := .constructor point [intType, intType]

/-- The method that makes a point from its coordinates. -/
def pointOf : MethodReference := ⟨point, "of", [intType, intType], pointType, true⟩

/-- The method that sets the first coordinate. -/
def pointSetX : MethodReference := ⟨point, "setX", [intType], .void, false⟩

/-- The method that moves a point. -/
def pointTranslate : MethodReference := ⟨point, "translate", [intType, intType], pointType, false⟩

/-- The method that measures the distance of two points. -/
def pointDistance : MethodReference := ⟨point, "distance", [pointType], .primitive .double, false⟩

/-- The method that adds up integers. -/
def pointSum : MethodReference := ⟨point, "sum", [.array intType], intType, true⟩

/-- The method that resets the settings. -/
def settingsReset : MethodReference := ⟨settings, "reset", [], .void, true⟩

/-- The methods above, in their order. -/
def methods : List MethodReference :=
  [pointConstructor, pointOf, pointSetX, pointTranslate, pointDistance, pointSum, settingsReset]

/-- The first coordinate of a point. -/
def pointX : FieldReference := ⟨point, "x", intType, false⟩

/-- The point at the origin. -/
def pointOrigin : FieldReference := ⟨point, "ORIGIN", pointType, true⟩

/-- The object in a box. -/
def boxValue : FieldReference := ⟨box, "value", objectType, false⟩

/-- The number hidden in a box. -/
def boxSecret : FieldReference := ⟨box, "secret", intType, false⟩

/-- The level of the settings. -/
def settingsLevel : FieldReference := ⟨settings, "level", intType, true⟩

/-- The fields above, in their order. -/
def fields : List FieldReference :=
  [pointX, pointOrigin, boxValue, boxSecret, settingsLevel]

end TestPlan.Demo
