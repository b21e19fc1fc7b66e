import CodeSearch.Glob.Parser
import CodeSearch.Tree.Resolve
import CodeSearch.Unicode.Named

/-!
# Ignore files

An ignore file is a list of globs, one a line, that say which entries of the tree below it are left
out; a line that starts with `!` takes entries back.  The last line that matches decides.

Three files of each directory count: `.ignore`, `.gitignore` and `.git/info/exclude`.  An entry is
judged by the first of them that has a verdict in any directory above the entry, and for each by the
directory that is nearest to the entry.  Where none of them has a verdict, the ignore file of the user
decides (`UserRules`).
-/

namespace CodeSearch

/-- What an ignore file says about an entry. -/
inductive Verdict where
  | leaveOut
  | takeBack
  deriving DecidableEq, Repr

/-- A line of an ignore file. -/
structure IgnoreRule where
  /-- Which paths it is about, relative to the directory of the file. -/
  glob : Glob
  /-- What it says about them. -/
  verdict : Verdict
  /-- It is about directories only. -/
  onlyDirs : Bool

namespace IgnoreRule

/-- A line without the white space at its end, unless that is escaped. -/
def trimmed (line : List Char) : List Char :=
  if ['\\', ' '].isSuffixOf line then line
  else (line.reverse.dropWhile Unicode.isWhiteSpace).reverse

/-- The glob of a line and whether it is about directories only, given the line without its mark:
a trailing slash is not part of the glob, and a glob without a slash matches at any depth. -/
def globText (anchored : Bool) (line : List Char) : List Char × Bool :=
  let (line, onlyDirs) := match line.reverse with
    | '/' :: '\\' :: rest => (rest.reverse, true)
    | '/' :: rest => (rest.reverse, true)
    | _ => (line, false)
  let hasDoubleStar := "**/".toList.isPrefixOf line || line == "**".toList
  let line := if anchored || line.contains '/' || hasDoubleStar then line else "**/".toList ++ line
  let line := if "/**".toList.isSuffixOf line then line ++ "/*".toList else line
  (line, onlyDirs)

/-- Reads a line.  Blank lines and comments say nothing; the error of a line is its glob's. -/
def parse (line : List Char) : Option (Except GlobError IgnoreRule) :=
  let line := trimmed line
  let rule (verdict : Verdict) (anchored : Bool) (line : List Char) :=
    let (text, onlyDirs) := globText anchored line
    some ((Glob.parse .lenient (String.ofList text)).map fun glob => ⟨glob, verdict, onlyDirs⟩)
  match line with
  | [] | '#' :: _ => none
  | '\\' :: '!' :: rest => rule .leaveOut false ('!' :: rest)
  | '\\' :: '#' :: rest => rule .leaveOut false ('#' :: rest)
  | '!' :: '/' :: rest => rule .takeBack true rest
  | '!' :: rest => rule .takeBack false rest
  | '/' :: rest => rule .leaveOut true rest
  | line => rule .leaveOut false line

/-- What a rule says about a path, if it is about it. -/
def verdict? (rule : IgnoreRule) (path : OsText) (isDir : Bool) : Option Verdict :=
  if (isDir || !rule.onlyDirs) && rule.glob.accepts path then some rule.verdict else none

end IgnoreRule

/-- An ignore file: its rules, the last line first, and what is wrong with its other lines. -/
structure IgnoreFile where
  /-- The rules, the last line first. -/
  rules : List IgnoreRule := []
  /-- The faults of its lines, in order. -/
  faults : List String := []

namespace IgnoreFile

/-- What the file says about a path relative to its directory. -/
def verdict? (file : IgnoreFile) (path : OsText) (isDir : Bool) : Option Verdict :=
  file.rules.findSome? fun rule => rule.verdict? path isDir

/-- The lines of a file, up to the first one that is not valid UTF-8, and whether there is such. -/
def lines (content : ByteArray) : List (List Char) × Bool :=
  let raw := Text.splitWhere (· == 10) content.toList
  let raw := if raw.getLast? == some [] then raw.dropLast else raw
  let decoded := raw.map fun bytes =>
    (String.fromUTF8? ⟨bytes.toArray⟩).map fun text =>
      let chars := text.toList
      if chars.getLast? == some '\r' then chars.dropLast else chars
  ((decoded.takeWhile Option.isSome).filterMap id, decoded.any Option.isNone)

/-- Reads a file.  `path` is the path that faults are reported for; a fault of decoding alone is not
reported. -/
def ofBytes (path : OsText) (content : ByteArray) : IgnoreFile :=
  let (lines, broken) := lines content
  let lines := match lines with
    | first :: rest => first.dropWhile (· == '\ufeff') :: rest
    | [] => []
  let fault (n : Nat) (text : String) : String :=
    path.lossy ++ ": line " ++ toString (n + 1) ++ ": " ++ text
  let read := (lines.zipIdx).filterMap fun (line, n) => (IgnoreRule.parse line).map fun
    | .ok rule => Except.ok rule
    | .error e => .error (fault n ("error parsing glob '" ++
        String.ofList (IgnoreRule.trimmed line) ++ "': " ++ e.message))
  let rules := read.filterMap Except.toOption
  let faults := read.filterMap fun
    | .ok _ => none
    | .error text => some text
  ⟨rules.reverse,
    if broken && !faults.isEmpty then faults ++ [fault lines.length OsError.notUtf8.message]
    else faults⟩

/-- Reads the file at a path; a file that cannot be read has no rules. -/
def load (world : World) (path : OsText) : IgnoreFile :=
  match world.readBytes path with
  | .ok content => ofBytes path content
  | .error _ => {}

end IgnoreFile

/-- The ignore files of one directory above or around an entry. -/
structure IgnoreLevel where
  /-- The path from that directory to the current one, empty or with a slash at its end. -/
  below : OsText
  /-- The files of the directory, the one that counts most first. -/
  files : List IgnoreFile

namespace IgnoreLevel

/-- The names of the files that count, the one that counts most first. -/
def fileNames : List String := [".ignore", ".gitignore", ".git/info/exclude"]

/-- The ignore files of the directory at a path. -/
def load (world : World) (path below : OsText) : IgnoreLevel :=
  ⟨below, fileNames.map fun name : String => IgnoreFile.load world (Path.join path name)⟩

/-- The level as seen from a directory within the current one. -/
def descend (level : IgnoreLevel) (name : OsText) : IgnoreLevel :=
  { level with below := level.below ++ name ++ "/" }

/-- What the levels, the nearest one first, say about an entry of the current directory. -/
def verdict? (levels : List IgnoreLevel) (name : OsText) (isDir : Bool) : Option Verdict :=
  (List.range fileNames.length).findSome? fun kind =>
    levels.findSome? fun level =>
      (level.files[kind]?).bind fun file => file.verdict? (level.below ++ name) isDir

/-- What is wrong with the files of a level. -/
def faults (level : IgnoreLevel) : List String := level.files.flatMap IgnoreFile.faults

end IgnoreLevel

/-- A path without some bytes in front, if it starts with them. -/
def withoutStart (start path : OsText) : OsText :=
  if start.bytes.isPrefixOf path.bytes then ⟨path.bytes.drop start.size⟩ else path

/-- The ignore file of the user.  It counts in every directory; its rules are about paths as they are
seen from the working directory. -/
structure UserRules where
  /-- The working directory. -/
  directory : OsText
  /-- The file; what is wrong with it is not reported. -/
  file : IgnoreFile

namespace UserRules

/-- The rules of the user, if there are any and the working directory is known. -/
def load? (world : World) : Option UserRules :=
  match world.tree.userIgnore, world.currentDirectory with
  | some path, .ok directory => some ⟨directory, .load world path⟩
  | _, _ => none

/-- A path as the rules see it.  A path without slashes is taken for a name. -/
def seen (rules : UserRules) (path : OsText) : OsText :=
  let path := withoutStart "./" (withoutStart "./" path)
  if slash ∈ path.bytes ∧ rules.directory.bytes <+: path.bytes then
    withoutStart "/" (withoutStart rules.directory path)
  else path

/-- What the rules say about an entry, by its path as it is shown. -/
def verdict? (rules : UserRules) (path : OsText) (isDir : Bool) : Option Verdict :=
  rules.file.verdict? (rules.seen path) isDir

end UserRules

end CodeSearch
