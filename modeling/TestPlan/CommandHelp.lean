/-! The pages that explain the commands of the program. -/

namespace TestPlan

/-- What a page of help is about. -/
inductive HelpTopic where
  | program
  | compile
  | checkConfig
  | defaultConfig
  | help
  deriving DecidableEq, Repr

/-- A group of entries on a page of help, each a label with a text. -/
structure HelpSection where
  title : String
  entries : List (String × String)

/-- A page of help. -/
structure HelpPage where
  about : String
  usage : String
  sections : List HelpSection

namespace HelpSection

/-- The width of a page. -/
def pageWidth : Nat := 100

/-- The width of the longest label, without the room kept for a short name. -/
def labelWidth (group : HelpSection) : Nat :=
  (group.entries.map fun entry => entry.1.trimAscii.toString.length).foldl max 0

/-- Whether a text of the group would not fit beside labels that take up much of the page. -/
def isWide (group : HelpSection) : Bool :=
  let taken := group.labelWidth + 12
  2 * pageWidth < 5 * taken && group.entries.any fun entry => pageWidth - taken < entry.2.length

/-- The lines of an entry: its text stands beside its label, or below it in a wide group. -/
def entryText (group : HelpSection) (entry : String × String) : String :=
  if group.isWide then "  " ++ entry.1 ++ "\n          " ++ entry.2 ++ "\n"
  else
    let width := (group.entries.map (·.1.length)).foldl max 0
    "  " ++ entry.1 ++ "".pushn ' ' (width - entry.1.length + 2) ++ entry.2 ++ "\n"

/-- The text of a group. -/
def text (group : HelpSection) : String :=
  "\n" ++ group.title ++ ":\n" ++ String.join (group.entries.map group.entryText)

end HelpSection

/-- The text of a page. -/
def HelpPage.text (page : HelpPage) : String :=
  page.about ++ "\n\nUsage: plancc " ++ page.usage ++ "\n"
    ++ String.join (page.sections.map HelpSection.text)

namespace HelpTopic

/-- One line about a topic. -/
def about : HelpTopic → String
  | program => "Lower construction plans into executable test statements"
  | compile => "Compile the candidates of a request file"
  | checkConfig => "Validate a configuration file"
  | defaultConfig => "Print the default configuration as TOML"
  | help => "Print this message or the help of the given subcommand(s)"

/-- The option that asks for help. -/
def helpOption : String × String := ("-h, --help", "Print help")

/-- The page on a topic. -/
def page (topic : HelpTopic) : HelpPage where
  about := topic.about
  usage := match topic with
    | program => "<COMMAND>"
    | compile => "compile [OPTIONS] --request <REQUEST>"
    | checkConfig => "check-config <PATH>"
    | defaultConfig => "default-config"
    | help => "help [COMMAND]..."
  sections := match topic with
    | program =>
      [⟨"Commands",
        [("compile", compile.about), ("check-config", checkConfig.about),
          ("default-config", defaultConfig.about), ("help", help.about)]⟩,
        ⟨"Options", [helpOption, ("-V, --version", "Print version")]⟩]
    | compile =>
      [⟨"Options",
        [("    --request <REQUEST>", "Request file (JSON)"),
          ("    --config <CONFIG>", "Compiler configuration (TOML, JSON or YAML)"),
          ("    --helper-package <HELPER_PACKAGE>",
            "Package the helper class lives in, overriding the configuration"),
          ("    --all", "Compile every candidate instead of stopping at the first success"),
          ("    --json", "Output as JSON"), helpOption]⟩]
    | checkConfig =>
      [⟨"Arguments", [("<PATH>", "Configuration file")]⟩, ⟨"Options", [helpOption]⟩]
    | defaultConfig => [⟨"Options", [helpOption]⟩]
    | help => [⟨"Arguments", [("[COMMAND]...", "Print help for the subcommand(s)")]⟩]

end HelpTopic

end TestPlan
