import CodeSearch.Request.Basic

/-!
# Subcommands

Every tool has a subcommand; two more take a request as a text and list the tools.
-/

namespace CodeSearch.CommandLine

/-- What the program can be told to do. -/
inductive Subcommand where
  /-- Runs a tool. -/
  | query (tool : Tool)
  /-- Runs the request that a text is. -/
  | call
  /-- Lists the tools. -/
  | tools
  deriving DecidableEq, Repr

namespace Subcommand

/-- All subcommands. -/
def all : List Subcommand := Tool.all.map query ++ [call, tools]

/-- The name of a subcommand. -/
def name : Subcommand → String
  | query .findFilesByName => "files"
  | query .findFilesByContent => "grep"
  | query .findFilesByRegex => "regex"
  | query .findImportedFiles => "imports"
  | query .findDependencies => "deps"
  | query .findRelatedClasses => "classes"
  | query .findStyleDependencies => "styles"
  | query .findRelatedTests => "tests"
  | query .findComponentUsage => "component"
  | query .findApiUsage => "api"
  | query .findFunctionDefinition => "function"
  | query .findRecentlyModifiedFiles => "recent"
  | query .findExternalDependency => "external"
  | call => "call"
  | tools => "tools"

/-- The name of the argument of a subcommand in its usage. -/
def argument? : Subcommand → Option String
  | query .findComponentUsage => some "NAME"
  | query tool => some tool.argument.toUpper
  | call => some "REQUEST"
  | tools => none

/-- What a subcommand does. -/
def description : Subcommand → String
  | query .findFilesByName => "Files whose path matches a glob (e.g. \"**/*.\x7bts,tsx\x7d\")"
  | query .findFilesByContent => "Files containing a literal substring"
  | query .findFilesByRegex => "Files matching a regular expression"
  | query .findImportedFiles => "Files in this tree imported by a file"
  | query .findDependencies => "A file's imports: resolved relative paths and package names"
  | query .findRelatedClasses => "Files related to a file through imports or class inheritance"
  | query .findStyleDependencies => "Style files imported by a component"
  | query .findRelatedTests => "Test files for a file or directory"
  | query .findComponentUsage => "Files rendering a component (contain \"<Name\")"
  | query .findApiUsage => "Files calling fetch() with an endpoint"
  | query .findFunctionDefinition => "Files defining a function"
  | query .findRecentlyModifiedFiles => "Files modified within the last N days"
  | query .findExternalDependency => "Installed module type declarations / entry file"
  | call =>
    "Run a raw tool request, e.g. " ++
      "'\x7b\"name\":\"find_api_usage\",\"arguments\":\x7b\"endpoint\":\"/api\"\x7d\x7d'"
  | tools => "List the tools available to \x60call\x60"

/-- The subcommand with a given name. -/
def ofName? (name : String) : Option Subcommand := all.find? (·.name == name)

theorem ofName?_name (subcommand : Subcommand) : ofName? subcommand.name = some subcommand := by
  cases subcommand with
  | query tool => cases tool <;> decide
  | _ => decide

end Subcommand

end CodeSearch.CommandLine
