import CodeSearch.Glob.Parser
import CodeSearch.Json.Error
import CodeSearch.Tree.Resolve

/-!
# Errors of searches

`SearchError` lists why a search, a configuration or a request is refused, and `SearchError.message`
words it.  A missing file is kept apart from the other failures of the operating system.  Left out is
what a library says about a regular expression or a configuration that it refuses, and at which line and
column of a JSON text a fault is.
-/

namespace CodeSearch

/-- Why something could not be done. -/
inductive SearchError where
  /-- Nothing stands at a path. -/
  | notFound (path : OsText)
  /-- The operating system refused an operation on a path. -/
  | io (path : OsText) (cause : OsError)
  /-- A text is no glob. -/
  | glob (pattern : String) (cause : GlobError)
  /-- A text is no regular expression, or one that is too large. -/
  | regex
  /-- A text is no configuration. -/
  | config
  /-- The working directory is something else than a directory. -/
  | notDirectory (root : OsText)
  /-- A file lies outside the working directory. -/
  | outside (file : String)
  /-- A request is malformed. -/
  | malformed (cause : JsonError)
  /-- The arguments of a tool are malformed. -/
  | badCall (tool : String) (cause : JsonError)
  /-- The listing of tools is no query. -/
  | notAQuery
  deriving DecidableEq, Repr

namespace SearchError

/-- The error for a failure of the operating system on a path. -/
def ofOs (path : OsText) : OsError → SearchError
  | .notFound => .notFound path
  | cause => .io path cause

/-- Whether nothing stands at the path. -/
def isNotFound : SearchError → Bool
  | notFound _ => true
  | _ => false

/-- The wording of an error; of a path it shows what can be decoded. -/
def message : SearchError → String
  | notFound path => "Not found: " ++ path.lossy
  | io path cause => "IO error on " ++ path.lossy ++ ": " ++ cause.message
  | glob pattern cause =>
    "Glob pattern error: error parsing glob '" ++ pattern ++ "': " ++ cause.message
  | regex => "Regex error"
  | config => "Config parse error"
  | notDirectory root => "Invalid request: " ++ root.lossy ++ " is not a directory"
  | outside file => "Invalid request: " ++ file ++ " is outside the working directory"
  | malformed cause => "Invalid request: " ++ cause.message
  | badCall tool cause => "Invalid request: " ++ tool ++ ": " ++ cause.message
  | notAQuery => "Invalid request: \x60tools\x60 is not a query"

end SearchError

end CodeSearch
