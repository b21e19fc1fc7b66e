import CodeSearch.Config.Basic
import CodeSearch.Error
import CodeSearch.Toml.Reader

/-!
# Configuration texts

`Config.parse` reads a configuration from a TOML text.  Every setting may be missing and then has its
default; settings that are not known are passed over.  A group of settings is a table, or an array
that lists the settings in their order.
-/

namespace CodeSearch

namespace Toml

/-- The settings of a group by position and name.  A time stands for a group without settings. -/
def group? : Toml → Option (Nat → String → Option Toml)
  | table members => some fun _ name => (members.find? (·.1 == name)).map (·.2)
  | array items => some fun position _ => items[position]?
  | time _ => some fun _ _ => none
  | _ => none

/-- A setting that may be missing. -/
def setting {α : Type} (decode? : Toml → Option α) (default : α) : Option Toml → Option α
  | none => some default
  | some value => decode? value

/-- A text. -/
def asString? : Toml → Option String
  | string value => some value
  | _ => none

/-- A switch. -/
def asBool? : Toml → Option Bool
  | boolean value => some value
  | _ => none

/-- A list of texts. -/
def asStrings? : Toml → Option (List String)
  | array items => items.mapM asString?
  | _ => none

end Toml

open Toml (setting asString? asBool? asStrings?)

/-- The switches of scans that a value describes. -/
def ScanConfig.ofToml? (value : Toml) : Option ScanConfig := do
  let default : ScanConfig := {}
  let settings ← value.group?
  some {
    dependencyDir := ← setting asString? default.dependencyDir (settings 0 "dependency_dir")
    includeHidden := ← setting asBool? default.includeHidden (settings 1 "include_hidden")
    respectGitignore := ← setting asBool? default.respectGitignore (settings 2 "respect_gitignore")
    followLinks := ← setting asBool? default.followLinks (settings 3 "follow_links") }

/-- The file name conventions that a value describes. -/
def QueryConfig.ofToml? (value : Toml) : Option QueryConfig := do
  let default : QueryConfig := {}
  let settings ← value.group?
  some {
    sourceExtensions :=
      ← setting asStrings? default.sourceExtensions (settings 0 "source_extensions")
    styleExtensions := ← setting asStrings? default.styleExtensions (settings 1 "style_extensions")
    testSuffix := ← setting asString? default.testSuffix (settings 2 "test_suffix") }

namespace Config

/-- The configuration that a value describes. -/
def ofToml? (value : Toml) : Option Config := do
  let settings ← value.group?
  some {
    scan := ← setting ScanConfig.ofToml? {} (settings 0 "scan")
    queries := ← setting QueryConfig.ofToml? {} (settings 1 "queries") }

/-- The configuration that a text describes. -/
def parse (text : String) : Except SearchError Config :=
  match (Toml.parse? text).bind fun members => ofToml? (.table members) with
  | some config => .ok config
  | none => .error .config

/-- The name of the configuration file of a directory. -/
def fileName : String := ".scout.toml"

/-- The default configuration as a text. -/
def defaultText : String :=
  "\n".intercalate [
    "# Scout Configuration",
    "",
    "[scan]",
    "# Directory holding installed third-party packages; never scanned",
    "dependency_dir = \"node_modules\"",
    "# Include dotfiles and dot-directories in enumeration",
    "include_hidden = true",
    "# Honour .gitignore / .ignore files while walking",
    "respect_gitignore = false",
    "# Descend into symlinked directories",
    "follow_links = false",
    "",
    "[queries]",
    "# Extensions treated as script sources (tests, components, import targets)",
    "source_extensions = [\"ts\", \"tsx\", \"js\", \"jsx\"]",
    "# Extensions treated as style files",
    "style_extensions = [\"css\", \"scss\"]",
    "# Infix marking a test file, as in \x60button.test.tsx\x60",
    "test_suffix = \"test\"",
    ""]

/-- The configuration that a file holds. -/
def load (world : World) (path : OsText) : Except SearchError Config :=
  match world.readText path with
  | .ok text => parse text
  | .error e => .error (.ofOs path e)

/-- The configuration of a directory: the one that its configuration file holds, or the default one if
it has no such file. -/
def discover (world : World) (root : OsText) : Except SearchError Config :=
  let path := Path.join root fileName
  if world.isFile path then load world path else .ok {}

end Config

/-- The switches of scans as a JSON value. -/
def ScanConfig.toJson (config : ScanConfig) : Json :=
  .object [
    ("dependency_dir", .string config.dependencyDir),
    ("include_hidden", .bool config.includeHidden),
    ("respect_gitignore", .bool config.respectGitignore),
    ("follow_links", .bool config.followLinks)]

/-- The file name conventions as a JSON value. -/
def QueryConfig.toJson (config : QueryConfig) : Json :=
  .object [
    ("source_extensions", .array (config.sourceExtensions.map .string)),
    ("style_extensions", .array (config.styleExtensions.map .string)),
    ("test_suffix", .string config.testSuffix)]

/-- A configuration as a JSON value. -/
def Config.toJson (config : Config) : Json :=
  .object [
    ("scan", config.scan.toJson),
    ("queries", config.queries.toJson),
    ("source_extension_set", .string config.sourceExtensionSet)]

end CodeSearch
