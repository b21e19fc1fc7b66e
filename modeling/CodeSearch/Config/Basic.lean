import CodeSearch.Json.Basic

/-!
# Configuration

`Config` holds the switches of scans and the file name conventions of queries, with their defaults.
-/

namespace CodeSearch

/-- How files are enumerated. -/
structure ScanConfig where
  /-- The directory of installed packages, which is never scanned. -/
  dependencyDir : String := "node_modules"
  /-- Files and directories whose name starts with a dot are scanned too. -/
  includeHidden : Bool := true
  /-- Ignore files are honoured. -/
  respectGitignore : Bool := false
  /-- Links to directories are descended into. -/
  followLinks : Bool := false
  deriving DecidableEq, Repr

/-- How files are named. -/
structure QueryConfig where
  /-- The extensions of script sources. -/
  sourceExtensions : List String := ["ts", "tsx", "js", "jsx"]
  /-- The extensions of style files. -/
  styleExtensions : List String := ["css", "scss"]
  /-- What stands before the extension of a test file. -/
  testSuffix : String := "test"
  deriving DecidableEq, Repr

/-- The configuration of all queries. -/
structure Config where
  /-- How files are enumerated. -/
  scan : ScanConfig := {}
  /-- How files are named. -/
  queries : QueryConfig := {}
  deriving DecidableEq, Repr

namespace Config

/-- The glob of all source extensions. -/
def sourceExtensionSet (config : Config) : String :=
  "\x7b" ++ ",".intercalate config.queries.sourceExtensions ++ "\x7d"

end Config

end CodeSearch
