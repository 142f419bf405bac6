import TestPlan.CommandHelp
import TestPlan.Config.Source
import TestPlan.Generation.Report

/-! The command line: its arguments, the files a command reads, and what it answers. -/

namespace TestPlan

/-- What is compiled, and how the result is shown. -/
structure CompileOptions where
  request : String
  config : Option String := none
  helperPackage : Option String := none
  /-- Whether all candidates are compiled, and not only up to the first success. -/
  all : Bool := false
  /-- Whether the report is written as data. -/
  json : Bool := false
  deriving DecidableEq, Repr

/-- What the program is asked to do. -/
inductive Command where
  | compile (options : CompileOptions)
  | checkConfig (path : String)
  | defaultConfig
  | version
  | help (topic : HelpTopic)
  deriving DecidableEq, Repr

/-- The answer of the program. -/
structure Answer where
  exitCode : UInt8
  output : String := ""
  /-- What was being done when the command failed. -/
  failure : Option String := none
  deriving DecidableEq, Repr

namespace Command

/-! ### Arguments -/

/-- What the options of the compile command have been set to so far. -/
structure CompileArguments where
  request : Option String := none
  config : Option String := none
  helperPackage : Option String := none
  all : Bool := false
  json : Bool := false

/-- An option of the compile command that takes a value. -/
inductive ValueOption where
  | request
  | config
  | helperPackage

namespace CompileArguments

/-- Sets an option that takes a value, once and not to an empty path. -/
def setValue (arguments : CompileArguments) (option : ValueOption) (value : String) :
    Option CompileArguments :=
  match option with
  | .request =>
    if arguments.request.isSome || value.isEmpty then none
    else some { arguments with request := some value }
  | .config =>
    if arguments.config.isSome || value.isEmpty then none
    else some { arguments with config := some value }
  | .helperPackage =>
    if arguments.helperPackage.isSome then none
    else some { arguments with helperPackage := some value }

/-- Sets an option without a value, once. -/
def setFlag (arguments : CompileArguments) : String → Option CompileArguments
  | "--all" => if arguments.all then none else some { arguments with all := true }
  | "--json" => if arguments.json then none else some { arguments with json := true }
  | _ => none

/-- The options that were set, among which the request must be. -/
def toOptions (arguments : CompileArguments) : Option CompileOptions :=
  arguments.request.map fun request =>
    ⟨request, arguments.config, arguments.helperPackage, arguments.all, arguments.json⟩

end CompileArguments

/-- The option with a name. -/
def valueOption? : String → Option ValueOption
  | "--request" => some .request
  | "--config" => some .config
  | "--helper-package" => some .helperPackage
  | _ => none

/-- Whether an argument is an option, and not a value or a single dash. -/
def isOption (argument : String) : Bool :=
  argument.toList.head? == some '-' && argument != "-"

/-- The parts of an argument around its first equals sign, if it has one. -/
def splitAssignment? (argument : String) : Option (String × String) :=
  let characters := argument.toList
  match characters.dropWhile (· != '=') with
  | _ :: value => some (String.ofList (characters.takeWhile (· != '=')), String.ofList value)
  | [] => none

/-- Whether an argument asks for help, perhaps with further letters after a short option. -/
def asksHelp (argument : String) : Bool :=
  argument == "--help" || argument.startsWith "-h"

/-- Whether an argument asks for the version of the program. -/
def asksVersion (argument : String) : Bool :=
  argument == "--version" || argument.startsWith "-V"

/-- Reads the arguments of the compile command. -/
def readCompile (arguments : CompileArguments) : List String → Option Command
  | [] => compile <$> arguments.toOptions
  -- Nothing may follow the mark that ends the options.
  | "--" :: rest => if rest.isEmpty then compile <$> arguments.toOptions else none
  | argument :: rest =>
    match valueOption? argument with
    | some option =>
      match rest with
      | value :: rest =>
        if isOption value then none
        else do readCompile (← arguments.setValue option value) rest
      | [] => none
    | none =>
      if asksHelp argument then some (.help .compile)
      else
        match splitAssignment? argument with
        | some (name, value) => do
          readCompile (← arguments.setValue (← valueOption? name) value) rest
        | none => do readCompile (← arguments.setFlag argument) rest

/-- Reads the one path of a command, of which so many were read before. -/
def readPath (paths : List String) : List String → Option Command
  | [] => onePath paths
  | "--" :: rest => onePath (paths ++ rest)
  | argument :: rest =>
    if asksHelp argument then
      if paths.contains "" then none else some (.help .checkConfig)
    else if isOption argument || !paths.isEmpty then none
    else readPath [argument] rest
where
  /-- The command on the path of a list that holds nothing else. -/
  onePath : List String → Option Command
    | [path] => if path.isEmpty then none else some (.checkConfig path)
    | _ => none

/-- Reads the arguments of the command that takes none. -/
def readNothing : List String → Option Command
  | [] | ["--"] => some .defaultConfig
  | argument :: _ => if asksHelp argument then some (.help .defaultConfig) else none

/-- The topic that the name of a command stands for. -/
def topicOf? : List String → Option HelpTopic
  | [] => some .program
  | ["compile"] => some .compile
  | ["check-config"] => some .checkConfig
  | ["default-config"] => some .defaultConfig
  | ["help"] => some .help
  | _ => none

/-- Reads the arguments of the program, unless they are wrong. -/
def ofArguments : List String → Option Command
  | [] => none
  | "compile" :: rest => readCompile {} rest
  | "check-config" :: rest => readPath [] rest
  | "default-config" :: rest => readNothing rest
  | "help" :: names => help <$> topicOf? names
  | argument :: _ =>
    if asksHelp argument then some (.help .program)
    else if asksVersion argument then some .version
    else none

/-! ### Answers -/

/-- The paths of the files that a command may read. -/
def files : Command → List String
  | .compile options => options.config.toList ++ [options.request]
  | .checkConfig path => [path]
  | _ => []

/-- The configuration of a command: the usual one unless a file is named. -/
def loadConfig (read : String → Option String) : Option String → Except String CompilerConfig
  | none => .ok {}
  | some path =>
    match CompilerConfig.ofFile path (read path) with
    | .ok config => .ok config
    | .error _ => .error ("loading config " ++ path)

/-- Moves the helper class to a package when one is given. -/
def applyPackage (config : CompilerConfig) : Option String → Except String CompilerConfig
  | none => .ok config
  | some package =>
    let moved := config.withHelperPackage package
    match moved.validate with
    | .ok () => .ok moved
    | .error _ => .error "applying --helper-package"

/-- The request in a file. -/
def loadRequest (read : String → Option String) (path : String) :
    Except String GenerationRequest :=
  match read path with
  | none => .error ("reading request " ++ path)
  | some text =>
    match GenerationRequest.ofJson text with
    | none => .error "parsing request"
    | some request => .ok request

/-- The report of the compile command. -/
def report (read : String → Option String) (options : CompileOptions) :
    Except String RunReport := do
  let config ← loadConfig read options.config
  let config ← applyPackage config options.helperPackage
  let request ← loadRequest read options.request
  return if options.all then request.runAll config else request.runFirst config

/-- The line that says that a configuration is valid. -/
def checkedLine (path : String) (config : CompilerConfig) : String :=
  path ++ ": ok (helper class " ++ config.helpers.binaryName ++ ", max_depth "
    ++ ((config.maxDepth.map fun depth => toString depth.toNat).getD "unlimited") ++ ")\n"

/-- The answer to a command, where `read` gives the text of a file that can be read. -/
def run (read : String → Option String) : Command → Answer
  | .compile options =>
    match report read options with
    | .error failure => ⟨1, "", some failure⟩
    | .ok report =>
      let output := if options.json then Json.indented report.toDatum ++ "\n" else report.render
      -- A run without a test is a failure, although its report is complete.
      ⟨if report.tests.isEmpty then 1 else 0, output, none⟩
  | .checkConfig path =>
    match loadConfig read (some path) with
    | .error failure => ⟨1, "", some failure⟩
    | .ok config => ⟨0, checkedLine path config, none⟩
  | .defaultConfig => ⟨0, CompilerConfig.toToml {}, none⟩
  | .version => ⟨0, "plancc 0.1.0\n", none⟩
  | .help topic => ⟨0, topic.page.text, none⟩

end Command

/-- The answer to wrong arguments. -/
def Answer.usage : Answer := ⟨2, "", none⟩

end TestPlan
