import CodeSearch.Query.Files

/-!
# Finding the tests of a file or directory
-/

namespace CodeSearch

/-- The end of the name of every test file, as a glob. -/
def testEnding (config : Config) : String :=
  "." ++ config.queries.testSuffix ++ "." ++ config.sourceExtensionSet

/-- The glob of the tests of what `path` denotes: those below a directory, or those named after a
file.  There is none for a directory outside the root. -/
def testGlob? (config : Config) (root path : OsText) (isDir : Bool) : Option String :=
  if isDir then
    match Path.segmentsBelow? root path with
    | none => none
    | some [] => some ("**/*" ++ testEnding config)
    | some names =>
      some (Glob.escape ("/".intercalate names) ++ "/**/*" ++ testEnding config)
  else
    some ("**/" ++ Glob.escape (((Path.fileStem? path).map OsText.lossy).getD "") ++ testEnding config)

/-- The tests of a source file, or of everything below a directory. -/
def findRelatedTests (searcher : Searcher) (root : OsText) (target : String) : Logged Outcome :=
  let path := targetPath root target
  match searcher.stat path with
  | .error e => do
    if e.isNotFound then
      Logged.problem ("find_related_tests: target not found: " ++ target)
    else
      Logged.problem ("find_related_tests: cannot inspect " ++ target ++ ": " ++ e.message)
    pure .failed
  | .ok node =>
    match testGlob? searcher.config root path node.isDir with
    | none => do
      Logged.problem ("find_related_tests: " ++ target ++ " is outside the working directory")
      pure .failed
    | some pattern => findByName searcher root pattern

end CodeSearch
