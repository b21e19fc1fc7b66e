import CodeSearch.CommandLine.Arguments
import CodeSearch.Config.Decode
import CodeSearch.Query.Dispatch
import CodeSearch.Request.Reader

/-!
# Runs of the command line program

`run` carries out a command line on a file system and yields a `Report`: the exit code, what is written
to the standard output and the messages besides it.
-/

namespace CodeSearch

namespace CommandLine

/-- What a run of the program leaves behind. -/
structure Report where
  /-- The exit code. -/
  exitCode : UInt8
  /-- The standard output. -/
  output : String
  /-- The messages, in the order in which they were written. -/
  messages : List String
  deriving DecidableEq, Repr

/-- A character of a log entry as it is written: terminals are not to be controlled by it. -/
def shownChar (c : Char) : List Char :=
  if c ∈ ['\x1b', '\x07', '\x08', '\x0c', '\x7f'] then
    ['\\', 'x', Nat.digitChar (c.toNat / 16), Nat.digitChar (c.toNat % 16)]
  else if 0x80 ≤ c.toNat ∧ c.toNat ≤ 0x9f then
    "\\u\x7b".toList ++ Nat.toDigits 16 c.toNat ++ ['\x7d']
  else [c]

/-- The line of a log entry. -/
def logLine (entry : LogEntry) : String :=
  let level := match entry.channel with
    | .progress => "INFO "
    | .problem => "WARN "
  level ++ String.ofList (entry.text.toList.flatMap shownChar)

/-- The line that sums up an outcome. -/
def summary (outcome : Outcome) : String :=
  match outcome.status with
  | .complete => "(" ++ toString outcome.size ++ " files)"
  | .incomplete skipped =>
    "(" ++ toString outcome.size ++ " files, " ++ toString skipped ++ " skipped)"
  | .failed => "(scan failed)"

/-- The report of a query. -/
def Report.ofOutcome (json : Bool) (result : Logged Outcome) : Report :=
  let lines := result.log.map logLine
  if json then ⟨0, result.value.toJson.pretty ++ "\n", lines⟩
  else
    ⟨0, String.join (result.value.value.map (· ++ "\n")), lines ++ [summary result.value]⟩

/-- The report of a run that could not be carried out. -/
def Report.ofError (json : Bool) (error : SearchError) : Report :=
  let message :=
    if json then
      Json.compact (.object [("code", .string "error"), ("message", .string error.message)])
    else "Error: " ++ error.message
  ⟨1, "", [message]⟩

/-- The list of tools. -/
def listTools (json : Bool) : Report :=
  if json then ⟨0, Tool.definitions.pretty ++ "\n", []⟩
  else
    ⟨0, String.join (PublishedTool.all.map fun tool =>
      tool.name ++ ": " ++ tool.description ++ "\n"), []⟩

/-- Whether a directory is the top of a project. -/
def isProjectRoot (world : World) (directory : OsText) : Bool :=
  world.exists? (Path.join directory Config.fileName) || world.exists? (Path.join directory ".git")

/-- The directory to search: the one that is given, else the nearest project root at or above the
working directory, else the working directory.  Without a working directory there is none. -/
def searchRoot (world : World) (given : Option String) : Except SearchError OsText :=
  match world.currentDirectory, given with
  | .error e, _ => .error (.ofOs "." e)
  | .ok directory, some path => .ok (Path.join directory path)
  | .ok directory, none =>
    .ok (((Path.selfAndAbove directory).find? (isProjectRoot world)).getD directory)

/-- The configuration: the one of the file that is given, else the one of the directory to search. -/
def configuration (world : World) (root : OsText) (given : Option String) :
    Except SearchError Config :=
  match given with
  | some path => Config.load world path
  | none => Config.discover world root

/-- The request of a command. -/
def Command.request : Command → Except SearchError Request
  | query request => .ok request
  | call text => (Request.ofText text).mapError .malformed
  | tools => .error .notAQuery

/-- Runs the query of a command. -/
def runQuery (world : World) (options : Options) (command : Command) :
    Except SearchError (Logged Outcome) := do
  let root ← searchRoot world options.root
  let config ← configuration world root options.config
  let request ← command.request
  .ok (request.run ⟨world, config⟩ root)

/-- Carries out a command line. -/
def Invocation.run (world : World) (invocation : Invocation) : Report :=
  let json := invocation.options.json
  match invocation.command with
  | .tools => listTools json
  | command =>
    match runQuery world invocation.options command with
    | .ok result => .ofOutcome json result
    | .error e => .ofError json e

end CommandLine

end CodeSearch
