import CodeSearch.CommandLine.Run

/-!
# Help on the command line
-/

namespace CodeSearch.CommandLine

/-- A line of two columns. -/
def helpLine (width : Nat) (name description : String) : String :=
  "  " ++ name ++ "".pushn ' ' (width + 2 - name.length) ++ description ++ "\n"

/-- The options of every level. -/
def optionsHelp : String :=
  "Options:\n" ++
    helpLine 21 "    --root <ROOT>" "Override working directory detection" ++
    helpLine 21 "    --config <CONFIG>"
      "Config file (default: <root>/.scout.toml if present) [env: SCOUT_CONFIG]" ++
    helpLine 21 "    --json" "Output as JSON" ++
    helpLine 21 "-h, --help" "Print help"

/-- The help on a subcommand, or on the program. -/
def helpText : Option Subcommand → String
  | some subcommand =>
    let argument := match subcommand.argument? with
      | some argument => " <" ++ argument ++ ">"
      | none => ""
    subcommand.description ++ "\n\nUsage: scout " ++ subcommand.name ++ " [OPTIONS]" ++ argument ++
      "\n\n" ++ optionsHelp
  | none =>
    "Read-only code-intelligence queries over a source tree\n\nUsage: scout [OPTIONS] <COMMAND>\n\n" ++
      "Commands:\n" ++
      String.join (Subcommand.all.map fun subcommand =>
        helpLine 9 subcommand.name subcommand.description) ++
      helpLine 9 "help" "Print this message or the help of the given subcommand(s)" ++ "\n" ++
      optionsHelp

/-- The report of a command line that does not lead to a run. -/
def Report.ofRefusal : Refusal → Report
  | .help topic => ⟨0, helpText topic, []⟩
  | .usage =>
    ⟨2, "", ["error: invalid arguments", "",
      "Usage: scout [OPTIONS] <COMMAND>", "", "For more information, try '--help'."]⟩

/-- The report of the program for some arguments, `config` being the configuration file that the
environment names. -/
def execute (world : World) (config : Option String) (arguments : List String) : Report :=
  match parse config arguments with
  | .ok invocation => invocation.run world
  | .error refusal => .ofRefusal refusal

end CodeSearch.CommandLine
