import TestPlan.Config.Codec
import TestPlan.Data.Json.Reader
import TestPlan.Data.Toml.Printer
import TestPlan.Data.Yaml.Node

/-! Configurations from texts and files. -/

namespace TestPlan

/-- A notation for configurations. -/
inductive Notation where
  | toml
  | json
  | yaml
  deriving DecidableEq, Repr

/-- Why no configuration is obtained. -/
inductive ConfigError where
  | unreadable
  | malformed (language : Notation)
  | unknownFormat (extension : String)
  | invalid (fault : ConfigFault)
  deriving DecidableEq, Repr

namespace Notation

/-- The notation that a file extension stands for. -/
def ofExtension? : String → Option Notation
  | "toml" => some .toml
  | "json" => some .json
  | "yaml" | "yml" => some .yaml
  | _ => none

/-- Reads a configuration, which need not be valid. -/
def read (language : Notation) (text : String) : Option CompilerConfig :=
  match language with
  | .toml => Toml.parse text >>= Datum.readWith (CompilerConfig.readBy .leading)
  | .json => Json.readWith CompilerConfig.read text
  | .yaml => do
    let document ← Yaml.parse text
    -- A document may contain itself, so only the levels that can matter are unfolded.
    CompilerConfig.readBy .refused CompilerConfig.levels (document.unfold CompilerConfig.levels)

end Notation

/-- What follows the last dot in a file name, unless that dot is its first character. -/
def fileExtension (file : String) : String :=
  let name := (file.toList.reverse.takeWhile (· != '/')).reverse
  let extension := (name.reverse.takeWhile (· != '.')).reverse
  if name = "..".toList ∨ name.length ≤ extension.length + 1 then "" else String.ofList extension

namespace CompilerConfig

/-- The valid configuration that a text describes. -/
def ofText (language : Notation) (text : String) : Except ConfigError CompilerConfig :=
  match language.read text with
  | none => .error (.malformed language)
  | some config =>
    match config.validate with
    | .ok () => .ok config
    | .error fault => .error (.invalid fault)

/-- The valid configuration in a file, given the file's text unless it cannot be read. -/
def ofFile (file : String) (text : Option String) : Except ConfigError CompilerConfig :=
  match text with
  | none => .error .unreadable
  | some text =>
    let extension := fileExtension file
    match Notation.ofExtension? extension with
    | none => .error (.unknownFormat extension)
    | some language => ofText language text

/-- The text of a configuration in its usual notation. -/
def toToml (config : CompilerConfig) : String :=
  match config.toDatum with
  | .record entries => Toml.print entries
  | _ => ""

end CompilerConfig

end TestPlan
