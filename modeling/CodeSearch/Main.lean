import CodeSearch.CommandLine.Help
import CodeSearch.Server.Answer
import CodeSearch.Tree.Edit
import Std.Data.HashSet

/-!
# The program

Under the name `scout-mcp` the program is the server, otherwise it is the command line tool.  Queries
run on a `World` that is read from the disk before: everything below the directory to search and behind
the links in it, the files above it that count for the search, and the file that the request names.
Pipes and devices are read in as sockets, names on the disk are texts here, and the settings of the user
are not looked at.
-/

namespace CodeSearch.Disk

/-- A world as far as it is read. -/
structure Reading where
  /-- What is read. -/
  world : World
  /-- The directories whose entries are read or being read. -/
  opened : Std.HashSet String := {}

/-- The levels of directories and links that are followed. -/
def maxDepth : Nat := 200

/-- A point in time of the disk. -/
def instant (time : IO.FS.SystemTime) : Instant :=
  .ofNanoseconds (time.sec * 1000000000 + time.nsec.toNat)

/-- The time on the clock of the disk: the one at which a file is written now. -/
def now : IO Instant := do
  let (_, path) ← IO.FS.createTempFile
  let info ← path.metadata
  IO.FS.removeFile path
  return instant info.modified

/-- The path behind all links of a path; empty if nothing stands there. -/
def realPath (path : String) : IO String :=
  try return (← IO.FS.realPath path).toString catch _ => return ""

/-- The path of an entry of a directory. -/
def entryPath (directory name : String) : String := (Path.join directory name).lossy

/-- Whether something can be done. -/
def succeeds {α : Type} (action : IO α) : IO Bool :=
  try discard action; return true catch _ => return false

/-- What may be done with a directory. -/
def access (directory name : String) : IO Access := do
  let entry : IO.FS.DirEntry := ⟨directory, name⟩
  return {
    lists := ← succeeds entry.path.readDir
    searched := ← succeeds (entry.path / ".").metadata }

/-- Reads a file, a socket or a link at a path, or the mere directory; `none` stands for what does not
exist.  Pipes and devices count as sockets: they are not opened, where the system might wait for ever. -/
def newEntry (directory name : String) : IO (Option NewEntry) := do
  let entry : IO.FS.DirEntry := ⟨directory, name⟩
  try
    let info ← entry.path.symlinkMetadata
    let modified := instant info.modified
    match info.type with
    | .file =>
      let content ← try pure (some (← IO.FS.readBinFile entry.path)) catch _ => pure none
      return some (.file content modified)
    | .other => return some (.socket modified)
    | .symlink => return some (.link (← realPath entry.path.toString))
    | .dir => return some (.dir (← access directory name))
  catch _ => return none

/-- Reads an entry of a directory and what it links to, but nothing below. -/
def readAlone (reading : Reading) (directory name : String) : IO Reading := do
  let put (reading : Reading) (path : OsText) (entry : NewEntry) : Reading :=
    { reading with world := reading.world.put path entry }
  match ← newEntry directory name with
  | none => return reading
  | some entry =>
    let reading := put reading (Path.join directory name) entry
    match entry with
    | .link target =>
      match ← newEntry "/" target.lossy with
      | some behind => return put reading target behind
      | none => return reading
    | _ => return reading

/-- Reads an entry of a directory and everything below it and behind it, up to some depth. -/
def readEntry : (depth : Nat) → Reading → (directory name : String) → IO Reading
  | 0, reading, _, _ => return reading
  | depth + 1, reading, directory, name => do
    let reading ← readAlone reading directory name
    let path ← realPath (entryPath directory name)
    if reading.opened.contains path ∨ !reading.world.isDir path then return reading
    let reading := { reading with opened := reading.opened.insert path }
    try
      let entries ← (⟨path, ""⟩ : IO.FS.DirEntry).path.readDir
      entries.foldlM (fun reading entry => readEntry depth reading path entry.fileName) reading
    catch _ => return reading

/-- Reads what stands on the way to a path, itself included. -/
def readWay (reading : Reading) (path : String) : IO Reading :=
  let names := Text.segments path
  (List.range names.length).foldlM (fun reading n =>
    readAlone reading ("/".intercalate (names.take n) ++ "/") (names.getD n "")) reading

/-- The files above a directory that count for a search in it. -/
def filesAbove : List String := [".git", Config.fileName, ".gitignore", ".ignore", ".git/info/exclude"]

/-- Reads the files at and above a directory that count for a search in it. -/
def readAbove (reading : Reading) (directory : String) : IO Reading :=
  (Path.selfAndAbove directory).foldlM (fun reading directory =>
    filesAbove.foldlM (fun reading name => readAlone reading directory.lossy name) reading) reading

/-- Reads what a request on a directory needs. -/
def readFor (reading : Reading) (root : String) (request : Request) : IO Reading := do
  let reading ← readWay reading root
  let place ← realPath root
  let reading ← readAbove reading place
  let reading ← readEntry maxDepth reading "/" place
  match request with
  | ⟨.findRelatedTests, target⟩ => readWay reading (targetPath root target).lossy
  | _ => return reading

/-- A world of which nothing is read yet. -/
def start : IO Reading := do
  let directory ← try pure (← IO.currentDir).toString catch _ => pure ""
  readWay { world := ⟨Tree.empty, directory, ← now⟩ } directory

/-- Reads what a command line needs. -/
def readForCommandLine (invocation : CommandLine.Invocation) : IO Reading := do
  let reading ← start
  let reading ← readAbove reading reading.world.workingDirectory.lossy
  let reading ← match invocation.options.config with
    | some path => readWay reading (Path.join reading.world.workingDirectory path).lossy
    | none => pure reading
  match invocation.command.request, CommandLine.searchRoot reading.world invocation.options.root with
  | .ok request, .ok root => readFor reading root.lossy request
  | _, _ => return reading

/-- Reads what a line that a client sends needs. -/
def readForLine (line : String) : IO Reading := do
  let reading ← start
  match (Server.Call.ofText line).toOption.map fun call => Server.ToolCall.ofParams call.params with
  | some (.ok call) =>
    readFor reading (Path.join reading.world.workingDirectory call.root).lossy call.request
  | _ => return reading

/-- Runs the command line tool. -/
def commandLine (arguments : List String) : IO UInt32 := do
  let config ← IO.getEnv "SCOUT_CONFIG"
  let reading ← match CommandLine.parse config arguments with
    | .ok invocation => readForCommandLine invocation
    | .error _ => start
  let report := CommandLine.execute reading.world config arguments
  report.messages.forM fun message => IO.eprintln message
  IO.print report.output
  return report.exitCode.toUInt32

/-- Serves a line of a client. -/
def serveLine (output : IO.FS.Stream) (line : String) : IO Unit := do
  let reading ← readForLine line
  let reply := Server.answer reading.world line
  reply.log.forM fun entry => IO.eprintln (CommandLine.logLine entry)
  if let some reply := reply.value then
    output.putStrLn reply.toJson.compact
    output.flush

/-- The bytes of an input up to the end of a line or of the input. -/
partial def readLine (input : IO.FS.Stream) (line : ByteArray) : IO ByteArray := do
  let next ← input.read 1
  if next.isEmpty then return line
  else if next.get! 0 == Server.lineFeed then return line ++ next
  else readLine input (line ++ next)

/-- Serves the lines of an input until it ends, or until a line is not UTF-8. -/
partial def serve (input output : IO.FS.Stream) : IO Unit := do
  let line ← readLine input ByteArray.empty
  if line.isEmpty then return
  let lines := Server.inputLines ⟨line.toList⟩
  (Server.decodedLines lines).forM (serveLine output)
  if lines.all OsText.IsUtf8 then serve input output

end CodeSearch.Disk

/-- Runs the program under the name by which it was called. -/
def main (arguments : List String) : IO UInt32 := do
  if (← IO.appPath).fileName == some "scout-mcp" then
    CodeSearch.Disk.serve (← IO.getStdin) (← IO.getStdout)
    return 0
  else CodeSearch.Disk.commandLine arguments
