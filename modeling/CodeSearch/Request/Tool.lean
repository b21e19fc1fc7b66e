import CodeSearch.Json.Basic

/-!
# Tools

A `Tool` is a query that can be asked for by name.  Every tool takes one argument, a text or a number.

What is published about the tools is a table of its own, `PublishedTool.all`, which is not read when a
tool is called.  An entry describes a tool and its argument as a JSON schema
(`PublishedTool.definition`).
-/

namespace CodeSearch

/-- The queries that can be asked for by name. -/
inductive Tool where
  | findFilesByName
  | findFilesByContent
  | findFilesByRegex
  | findImportedFiles
  | findDependencies
  | findRelatedClasses
  | findStyleDependencies
  | findRelatedTests
  | findComponentUsage
  | findApiUsage
  | findFunctionDefinition
  | findRecentlyModifiedFiles
  | findExternalDependency
  deriving DecidableEq, Repr

/-- The kinds of arguments. -/
inductive ArgumentKind where
  | text
  | number
  deriving DecidableEq, Repr

/-- What an argument of some kind is. -/
def ArgumentKind.Value : ArgumentKind → Type
  | text => String
  | number => UInt64

instance : (kind : ArgumentKind) → DecidableEq kind.Value
  | .text => inferInstanceAs (DecidableEq String)
  | .number => inferInstanceAs (DecidableEq UInt64)

/-- The name of a kind in a schema. -/
def ArgumentKind.schemaName : ArgumentKind → String
  | text => "string"
  | number => "integer"

namespace Tool

/-- All tools. -/
def all : List Tool :=
  [findFilesByName, findFilesByContent, findFilesByRegex, findImportedFiles, findDependencies,
    findRelatedClasses, findStyleDependencies, findRelatedTests, findComponentUsage, findApiUsage,
    findFunctionDefinition, findRecentlyModifiedFiles, findExternalDependency]

theorem mem_all (tool : Tool) : tool ∈ all := by cases tool <;> decide

/-- The name of a tool. -/
def name : Tool → String
  | findFilesByName => "find_files_by_name"
  | findFilesByContent => "find_files_by_content"
  | findFilesByRegex => "find_files_by_regex"
  | findImportedFiles => "find_imported_files"
  | findDependencies => "find_dependencies"
  | findRelatedClasses => "find_related_classes"
  | findStyleDependencies => "find_style_dependencies"
  | findRelatedTests => "find_related_tests"
  | findComponentUsage => "find_component_usage"
  | findApiUsage => "find_api_usage"
  | findFunctionDefinition => "find_function_definition"
  | findRecentlyModifiedFiles => "find_recently_modified_files"
  | findExternalDependency => "find_external_dependency"

/-- The name of the requests for a tool in error messages. -/
def requestName : Tool → String
  | findFilesByName => "FindFilesByName"
  | findFilesByContent => "FindFilesByContent"
  | findFilesByRegex => "FindFilesByRegex"
  | findImportedFiles => "FindImportedFiles"
  | findDependencies => "FindDependencies"
  | findRelatedClasses => "FindRelatedClasses"
  | findStyleDependencies => "FindStyleDependencies"
  | findRelatedTests => "FindRelatedTests"
  | findComponentUsage => "FindComponentUsage"
  | findApiUsage => "FindApiUsage"
  | findFunctionDefinition => "FindFunctionDefinition"
  | findRecentlyModifiedFiles => "FindRecentlyModifiedFiles"
  | findExternalDependency => "FindExternalDependency"

/-- The name of the argument of a tool. -/
def argument : Tool → String
  | findFilesByName | findFilesByContent | findFilesByRegex => "pattern"
  | findImportedFiles | findDependencies | findRelatedClasses => "file"
  | findStyleDependencies | findComponentUsage => "component"
  | findRelatedTests => "target"
  | findApiUsage => "endpoint"
  | findFunctionDefinition => "name"
  | findRecentlyModifiedFiles => "days"
  | findExternalDependency => "module"

/-- The kind of the argument of a tool. -/
def kind : Tool → ArgumentKind
  | findRecentlyModifiedFiles => .number
  | _ => .text

/-- The tool with a given name. -/
def ofName? (name : String) : Option Tool := all.find? (·.name == name)

theorem ofName?_name (tool : Tool) : ofName? tool.name = some tool := by cases tool <;> decide

end Tool

/-- What is published about a tool. -/
structure PublishedTool where
  /-- The name of the tool. -/
  name : String
  /-- What the tool does. -/
  description : String
  /-- The name of its argument. -/
  argument : String
  /-- The type of its argument. -/
  type : String
  /-- What its argument means. -/
  argumentDescription : String
  deriving DecidableEq, Repr

namespace PublishedTool

/-- What is published about the tools. -/
def all : List PublishedTool :=
  [⟨"find_files_by_name",
      "List files whose repo-relative path matches a glob (supports ** and \x7ba,b\x7d).",
      "pattern", "string", "Glob pattern, e.g. '**/*.\x7bts,tsx\x7d'"⟩,
    ⟨"find_files_by_content", "List files whose text contains a literal substring.",
      "pattern", "string", "Literal text to look for"⟩,
    ⟨"find_files_by_regex", "List files whose text matches a regular expression.",
      "pattern", "string", "Regular expression (Rust regex syntax)"⟩,
    ⟨"find_imported_files", "List the files in this tree that a file imports.",
      "file", "string", "File path relative to the working directory"⟩,
    ⟨"find_dependencies",
      "List a file's imports: relative ones resolved to paths, package names verbatim.",
      "file", "string", "File path relative to the working directory"⟩,
    ⟨"find_related_classes",
      "List files related to a file through imports or class inheritance.",
      "file", "string", "File path relative to the working directory"⟩,
    ⟨"find_style_dependencies", "List .css/.scss files imported by a component's source file.",
      "component", "string", "Component file base name, e.g. 'Button'"⟩,
    ⟨"find_related_tests",
      "List test files for a source file or for everything under a directory.",
      "target", "string", "File or directory path relative to the working directory"⟩,
    ⟨"find_component_usage", "List files that render a component (contain '<Name').",
      "component", "string", "Component tag name"⟩,
    ⟨"find_api_usage", "List files calling fetch() with an endpoint.",
      "endpoint", "string", "Endpoint text, e.g. '/api/users'"⟩,
    ⟨"find_function_definition",
      "List files defining a function by declaration or const/let/var arrow binding.",
      "name", "string", "Function name"⟩,
    ⟨"find_recently_modified_files", "List files modified within the last N days.",
      "days", "integer", "Day threshold"⟩,
    ⟨"find_external_dependency",
      "Locate an installed module's type declarations or entry file.",
      "module", "string", "Package name, e.g. 'lodash' or '@scope/pkg'"⟩]

/-- The schema of the arguments of a tool, with further arguments, all of them required. -/
def inputSchema (tool : PublishedTool) (more : List (String × Json)) : Json :=
  let own : Json := .object [
    ("description", .string tool.argumentDescription),
    ("type", .string tool.type)]
  .object [
    ("properties",
      .object (more.foldl (fun done m => Json.insertMember m.1 m.2 done) [(tool.argument, own)])),
    ("required", .array ((tool.argument :: more.map (·.1)).map .string)),
    ("type", .string "object")]

/-- The description of a tool as a JSON value; `more` are arguments that it takes besides its own. -/
def definition (tool : PublishedTool) (more : List (String × Json)) : Json :=
  .object [
    ("name", .string tool.name),
    ("description", .string tool.description),
    ("inputSchema", tool.inputSchema more)]

end PublishedTool

/-- The descriptions of all tools. -/
def Tool.definitions : Json := .array (PublishedTool.all.map (·.definition []))

end CodeSearch
