import CodeSearch.Log
import CodeSearch.Outcome
import CodeSearch.Walk.Basic

/-!
# What all queries share

A `Searcher` is what a query runs against: a file system and a configuration.  Every query yields an
`Outcome` and a log.  It never fails as a whole: what it cannot look at is reported as a problem and
counted as skipped.
-/

namespace CodeSearch

/-- What queries run against. -/
structure Searcher where
  /-- The file system. -/
  world : World
  /-- The configuration. -/
  config : Config

/-- The glob that matches every file. -/
def allFiles : String := "**/*"

/-- The absolute path of a target that may be given relative to `root`. -/
def targetPath (root : OsText) (target : String) : OsText := Path.join root target

namespace Searcher

/-- The files below `root` whose path matches a glob. -/
def enumerate (searcher : Searcher) (root : OsText) (pattern : String) : Except SearchError Walk :=
  walkFiles searcher.world searcher.config.scan root pattern

/-- Whether a path is excluded by its name. -/
def excludesName (searcher : Searcher) (path : String) : Bool :=
  isExcludedName searcher.config.scan.dependencyDir path

/-- The text of the file at a path. -/
def readText (searcher : Searcher) (path : OsText) : Except SearchError String :=
  match searcher.world.readText path with
  | .ok text => .ok text
  | .error e => .error (.ofOs path e)

/-- What a path denotes. -/
def stat (searcher : Searcher) (path : OsText) : Except SearchError Node :=
  match searcher.world.stat path with
  | .ok node => .ok node
  | .error e => .error (.ofOs path e)

/-- Whether a path below `root` denotes a regular file.  Nothing being there is no error. -/
def probe (searcher : Searcher) (root : OsText) (relative : String) : Except SearchError Bool :=
  match searcher.stat (Path.join root relative) with
  | .ok node => .ok node.isFile
  | .error e => if e.isNotFound then .ok false else .error e

/-- Whether a path below `root` denotes a regular file that is not excluded by its name; what is
excluded is not looked at. -/
def isResultFile (searcher : Searcher) (root : OsText) (relative : String) : Except SearchError Bool :=
  if searcher.excludesName relative then .ok false else searcher.probe root relative

end Searcher

/-- Reports the problems of a walk. -/
def reportProblems (walk : Walk) : Logged Unit :=
  walk.problems.forM fun text => Logged.problem ("walk: " ++ text)

/-- Reports the number of files found for a subject. -/
def reportCount (operation subject : String) (outcome : Outcome) : Logged Unit :=
  Logged.progress (operation ++ ": " ++ toString outcome.size ++ " file(s) for '" ++ subject ++ "'")

/-- Keeps the files that `keep?` accepts.  A file that it cannot decide is reported, in the words of
`describe`, and counted. -/
def selectFiles (keep? : String → Except SearchError Bool) (describe : SearchError → String) :
    List String → Logged (List String × Nat)
  | [] => pure ([], 0)
  | file :: rest =>
    match keep? file with
    | .ok kept => do
      let (files, skipped) ← selectFiles keep? describe rest
      pure (if kept then file :: files else files, skipped)
    | .error e => do
      Logged.problem (describe e)
      let (files, skipped) ← selectFiles keep? describe rest
      pure (files, skipped + 1)

/-- Examines every file below `root`, in the order of the walk, and keeps those that `keep?` accepts.
`operation` names the scan in the report of a walk that could not start. -/
def scanFiles (searcher : Searcher) (root : OsText) (operation : String)
    (keep? : String → Except SearchError Bool) (describe : SearchError → String) : Logged Outcome :=
  match searcher.enumerate root allFiles with
  | .error e => do
    Logged.problem (operation ++ ": " ++ e.message)
    pure .failed
  | .ok walk => do
    reportProblems walk
    let (files, skipped) ← selectFiles keep? describe walk.files
    pure (.withSkipped files (walk.problems.length + skipped))

end CodeSearch
