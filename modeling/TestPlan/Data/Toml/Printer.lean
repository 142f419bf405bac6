import TestPlan.Data.Json.Printer
import TestPlan.Data.Toml.Reader

/-! Writing records as TOML text, each record under a header of its own. -/

namespace TestPlan.Toml

/-- A key, quoted unless it may stand as it is. -/
def keyText (key : String) : String :=
  if !key.isEmpty && key.toList.all isBare then key else Json.quote key

mutual

/-- The lines of a record under a path: values first, then the records inside it. -/
def printTable (path : List String) (entries : List (String × Datum)) : String :=
  printValues entries ++ printTables path entries

/-- The lines of the values of a record. -/
def printValues : List (String × Datum) → String
  | [] => ""
  -- A value that is absent has no line.
  | (_, .null) :: rest
  | (_, .record _) :: rest => printValues rest
  | (key, value) :: rest =>
    keyText key ++ " = " ++ Json.compact value ++ "\n" ++ printValues rest

/-- The headers and lines of the records inside a record. -/
def printTables (path : List String) : List (String × Datum) → String
  | [] => ""
  | (key, .record entries) :: rest =>
    let inner := path ++ [keyText key]
    "\n[" ++ ".".intercalate inner ++ "]\n" ++ printTable inner entries ++ printTables path rest
  | _ :: rest => printTables path rest

end

/-- The text of a document. -/
def print (entries : List (String × Datum)) : String :=
  printTable [] entries

end TestPlan.Toml
