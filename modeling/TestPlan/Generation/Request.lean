import TestPlan.ClassModel.Codec
import TestPlan.ClassModel.Platform
import TestPlan.Config.HelperLibrary
import TestPlan.Data.Json.Reader
import TestPlan.Plan.Decoding
import TestPlan.Plan.Encoding

/-! Requests for tests: the classes of a program, and methods with what their calls need. -/

namespace TestPlan

/-- A method to be tested, without parameters when none were found for it. -/
structure Candidate where
  method : MethodReference
  parameters : Option Parameters := none

/-- Class definitions by layer. -/
structure ClassLayers where
  instrumented : List ClassDefinition := []
  runtime : List ClassDefinition := []
  host : List ClassDefinition := []
  deriving DecidableEq, Repr

/-- A request for tests of some candidates over a class model. -/
structure GenerationRequest where
  classes : ClassLayers := {}
  candidates : List Candidate := []

namespace Candidate

/-- The data of a candidate. -/
def toDatum (candidate : Candidate) : Datum :=
  .record [("method", candidate.method.toDatum),
    ("parameters", .ofOption Parameters.toDatum candidate.parameters)]

/-- Reads a candidate within the given room. -/
def read : Nat → Datum → Option Candidate
  | 0, _ => none
  | room + 1, datum => do
    let fields ← datum.fields ["method", "parameters"]
    return {
      method := ← fields.required "method" (MethodReference.read false room)
      parameters :=
        ← fields.withDefault "parameters" none (Datum.asOption (Parameters.read false room)) }

end Candidate

namespace ClassLayers

/-- The data of the layers. -/
def toDatum (layers : ClassLayers) : Datum :=
  .record [("instrumented", .list (layers.instrumented.map ClassDefinition.toDatum)),
    ("runtime", .list (layers.runtime.map ClassDefinition.toDatum)),
    ("host", .list (layers.host.map ClassDefinition.toDatum))]

/-- Reads layers within the given room. -/
def read : Nat → Datum → Option ClassLayers
  | 0, _ => none
  | room + 1, datum => do
    let fields ← datum.fields ["instrumented", "runtime", "host"]
    let definitions := readListOf ClassDefinition.read room
    return {
      instrumented := ← fields.withDefault "instrumented" [] definitions
      runtime := ← fields.withDefault "runtime" [] definitions
      host := ← fields.withDefault "host" [] definitions }

end ClassLayers

/-- The definition with the object class as superclass, if it needs one and names none. -/
def ClassDefinition.withObjectRoot (definition : ClassDefinition) : ClassDefinition :=
  if definition.superclass.isNone ∧ definition.kind ≠ .interface ∧ definition.name ≠ objectClass
  then definition.extending (some objectClass)
  else definition

namespace GenerationRequest

/-- The data of a request. -/
def toDatum (request : GenerationRequest) : Datum :=
  .record [("classes", request.classes.toDatum),
    ("candidates", .list (request.candidates.map Candidate.toDatum))]

/-- Reads a request within the given room. -/
def read : Nat → Datum → Option GenerationRequest
  | 0, _ => none
  | room + 1, datum => do
    let fields ← datum.fields ["classes", "candidates"]
    return {
      classes := ← fields.withDefault "classes" {} (ClassLayers.read room)
      candidates := ← fields.withDefault "candidates" [] (readListOf Candidate.read room) }

/-- The request that a JSON text describes. -/
def ofJson (text : String) : Option GenerationRequest :=
  Json.readWith read text

/-- The classes of a layer after those it has anyway. -/
def layerSource (given requested : List ClassDefinition) : ClassSource :=
  .ofList (given ++ requested.map ClassDefinition.withObjectRoot)

/-- The class space of a request, with the helper class and the platform classes. -/
def classSpace (request : GenerationRequest) (helpers : HelperLibrary) : ClassSpace where
  instrumented := [layerSource [] request.classes.instrumented]
  runtime := [layerSource [helpers.classDefinition] request.classes.runtime]
  host := [layerSource platformClasses request.classes.host]

/-- A loader for the classes of a request. -/
def loader (request : GenerationRequest) (helpers : HelperLibrary) : Loader where
  space := request.classSpace helpers

end GenerationRequest

end TestPlan
