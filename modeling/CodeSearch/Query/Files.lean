import CodeSearch.Query.Basic
import CodeSearch.Pattern.Matcher
import CodeSearch.Regex.Parser
import CodeSearch.Regex.Size

/-!
# Finding files by name, content and age
-/

namespace CodeSearch

/-- The files whose path matches a glob. -/
def findByName (searcher : Searcher) (root : OsText) (pattern : String) : Logged Outcome :=
  match searcher.enumerate root pattern with
  | .ok walk => do
    reportProblems walk
    Logged.progress ("find_files_by_name: " ++ toString walk.files.length ++ " file(s) match '" ++
      pattern ++ "'")
    pure (.withSkipped walk.files walk.problems.length)
  | .error e => do
    Logged.problem ("find_files_by_name '" ++ pattern ++ "': " ++ e.message)
    pure .failed

/-- The files whose text has a property. -/
def scanTexts (searcher : Searcher) (root : OsText) (holds : String → Bool) : Logged Outcome :=
  scanFiles searcher root "content scan"
    (fun file => (searcher.readText (Path.join root file)).map holds) SearchError.message

/-- Whether a text contains another one literally. -/
def containsText (needle text : String) : Bool := Text.occursIn needle.toList text.toList

/-- The files whose text contains a given text. -/
def findByContent (searcher : Searcher) (root : OsText) (needle : String) : Logged Outcome := do
  let outcome ← scanTexts searcher root (containsText needle)
  Logged.progress ("find_files_by_content: " ++ toString outcome.size ++ " file(s) contain '" ++
    needle ++ "'")
  pure outcome

/-- The regular expression that a text is, if it is one that can be used. -/
def compileRegex (pattern : String) : Except SearchError Regex :=
  match (Regex.Expr.parse? pattern).bind Regex.ofExpr? with
  | some regex => if regex.isUsable then .ok regex else .error .regex
  | none => .error .regex

/-- The files whose text has a part that a regular expression matches. -/
def findByRegex (searcher : Searcher) (root : OsText) (pattern : String) : Logged Outcome :=
  match compileRegex pattern with
  | .error e => do
    Logged.problem ("find_files_by_regex '" ++ pattern ++ "': " ++ e.message)
    pure .failed
  | .ok regex => do
    let outcome ← scanTexts searcher root fun text => regex.pattern.occursIn text.toList
    Logged.progress ("find_files_by_regex: " ++ toString outcome.size ++ " file(s) match /" ++
      pattern ++ "/")
    pure outcome

/-- The files that open a tag of a component. -/
def findComponentUsage (searcher : Searcher) (root : OsText) (component : String) : Logged Outcome := do
  let outcome ← scanTexts searcher root (containsText ("<" ++ component))
  reportCount "find_component_usage" component outcome
  pure outcome

/-- A call of `fetch` that has `endpoint` somewhere before its first closing parenthesis. -/
def fetchCall (endpoint : String) : Regex :=
  .concat [.literal "fetch(",
    .repetition (.set (Unicode.CharSet.ofRange ')' ')').compl) 0 none, .literal endpoint]

/-- The files that call `fetch` with an endpoint. -/
def findApiUsage (searcher : Searcher) (root : OsText) (endpoint : String) : Logged Outcome :=
  let regex := fetchCall endpoint
  if regex.isUsable then do
    let outcome ← scanTexts searcher root fun text => regex.pattern.occursIn text.toList
    reportCount "find_api_usage" endpoint outcome
    pure outcome
  else do
    Logged.problem ("find_api_usage: " ++ SearchError.regex.message)
    pure .failed

/-- The ways in which a function can be defined. -/
def definitionShapes (name : String) : List String :=
  ["function " ++ name ++ "(", "const " ++ name ++ " = (", "let " ++ name ++ " = (",
    "var " ++ name ++ " = ("]

/-- The files that define a function. -/
def findFunctionDefinition (searcher : Searcher) (root : OsText) (name : String) : Logged Outcome := do
  let shapes := definitionShapes name
  let outcome ← scanTexts searcher root fun text => shapes.any fun shape => containsText shape text
  reportCount "find_function_definition" name outcome
  pure outcome

/-- The nanoseconds of a day. -/
def nanosecondsPerDay : Nat := 24 * 60 * 60 * 1000000000

/-- The days from `modified` to `now`, rounded up; none if `modified` lies in the future. -/
def ageInDays (now modified : Instant) : UInt64 :=
  let elapsed := (now.nanoseconds - modified.nanoseconds).toNat
  UInt64.ofNat ((elapsed + (nanosecondsPerDay - 1)) / nanosecondsPerDay)

/-- The files that were modified within the last `days` days. -/
def findRecent (searcher : Searcher) (root : OsText) (days : UInt64) : Logged Outcome := do
  let operation := "find_recently_modified_files"
  let isRecent (file : String) : Except SearchError Bool :=
    (searcher.stat (Path.join root file)).map fun node =>
      node.modified?.any fun modified => ageInDays searcher.world.now modified ≤ days
  let outcome ← scanFiles searcher root operation isRecent
    fun e => operation ++ ": " ++ e.message
  if outcome.status ≠ .failed then
    reportCount operation (toString days.toNat ++ " day(s)") outcome
  pure outcome

end CodeSearch
