import TestPlan.Config.Basic
import TestPlan.Data.Datum

/-! Configurations as data. -/

namespace TestPlan

namespace RoutineTable

/-- The data of a table: a record with an entry for each routine. -/
def toDatum (table : RoutineTable) : Datum :=
  .record (table.entries.map fun (routine, type) => (routine, .text type))

/-- Reads a table within the given room. -/
def read : Nat → Datum → Option RoutineTable
  | 0, _ => none
  | _ + 1, .record entries =>
    ofList <$> entries.mapM fun (routine, type) => type.asText.map (routine, ·)
  -- Where nothing is written there is a table without entries.
  | _ + 1, .scalar scalar => if scalar.isEmpty then some empty else none
  | _ + 1, _ => none

end RoutineTable

namespace HelperFamily

/-- The data of a family. -/
def toDatum (family : HelperFamily) : Datum :=
  .record [("generic", .text family.generic), ("specialized", family.specialized.toDatum)]

/-- Reads a family within the given room, with a rule for lists. -/
def readBy (rule : ListRule) : Nat → Datum → Option HelperFamily
  | 0, _ => none
  | room + 1, datum => do
    let fields ← datum.fieldsBy rule ["generic", "specialized"]
    return {
      generic := ← fields.required "generic" Datum.asText
      specialized := ← fields.withDefault "specialized" .empty (RoutineTable.read room) }

/-- Reads a family within the given room. -/
def read : Nat → Datum → Option HelperFamily :=
  readBy .fitting

end HelperFamily

namespace HelperLibrary

/-- The data of a library. -/
def toDatum (library : HelperLibrary) : Datum :=
  .record [("package", .text library.package), ("class_name", .text library.className),
    ("new_instance", .text library.newInstance), ("new_array", library.newArray.toDatum),
    ("get_field", library.getField.toDatum), ("set_field", library.setField.toDatum),
    ("get_element", library.getElement.toDatum), ("set_element", library.setElement.toDatum)]

/-- Reads a library within the given room, with a rule for lists; a part that is not given keeps
its usual value. -/
def readBy (rule : ListRule) : Nat → Datum → Option HelperLibrary
  | 0, _ => none
  | room + 1, datum => do
    let usual : HelperLibrary := {}
    let family := HelperFamily.readBy rule room
    let fields ← datum.fieldsBy rule
      ["package", "class_name", "new_instance", "new_array", "get_field", "set_field",
        "get_element", "set_element"]
    return {
      package := ← fields.withDefault "package" usual.package Datum.asText
      className := ← fields.withDefault "class_name" usual.className Datum.asText
      newInstance := ← fields.withDefault "new_instance" usual.newInstance Datum.asText
      newArray := ← fields.withDefault "new_array" usual.newArray family
      getField := ← fields.withDefault "get_field" usual.getField family
      setField := ← fields.withDefault "set_field" usual.setField family
      getElement := ← fields.withDefault "get_element" usual.getElement family
      setElement := ← fields.withDefault "set_element" usual.setElement family }

end HelperLibrary

namespace LogSettings

/-- The data of the log settings. -/
def toDatum (settings : LogSettings) : Datum :=
  .record [("filter", .text settings.filter), ("json", .boolean settings.json)]

/-- Reads the log settings within the given room, with a rule for lists. -/
def readBy (rule : ListRule) : Nat → Datum → Option LogSettings
  | 0, _ => none
  | _ + 1, datum => do
    let usual : LogSettings := {}
    let fields ← datum.fieldsBy rule ["filter", "json"]
    return {
      filter := ← fields.withDefault "filter" usual.filter Datum.asText
      json := ← fields.withDefault "json" usual.json Datum.asBoolean }

end LogSettings

namespace CompilerConfig

/-- Reads a nesting limit, which fits 64 bits. -/
def readDepth (datum : Datum) : Option UInt64 :=
  (UInt64.ofNat ·.toNat) <$> datum.asIntegerIn 0 (UInt64.size - 1)

/-- The data of a configuration. -/
def toDatum (config : CompilerConfig) : Datum :=
  .record [("helpers", config.helpers.toDatum),
    ("max_depth", .ofOption (fun depth => .integer depth.toNat) config.maxDepth),
    ("validate_plans", .boolean config.validatePlans), ("logging", config.logging.toDatum)]

/-- The number of levels of records and tables in a configuration. -/
def levels : Nat := 4

/-- Reads a configuration within the given room, with a rule for lists; it need not be valid. -/
def readBy (rule : ListRule) : Nat → Datum → Option CompilerConfig
  | 0, _ => none
  | room + 1, datum => do
    let fields ← datum.fieldsBy rule ["helpers", "max_depth", "validate_plans", "logging"]
    return {
      helpers := ← fields.withDefault "helpers" {} (HelperLibrary.readBy rule room)
      maxDepth := ← fields.withDefault "max_depth" none (Datum.asOption readDepth)
      validatePlans := ← fields.withDefault "validate_plans" false Datum.asBoolean
      logging := ← fields.withDefault "logging" {} (LogSettings.readBy rule room) }

/-- Reads a configuration within the given room; it need not be valid. -/
def read : Nat → Datum → Option CompilerConfig :=
  readBy .fitting

end CompilerConfig

end TestPlan
