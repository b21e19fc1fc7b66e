import CodeSearch.Config.Basic
import CodeSearch.Error
import CodeSearch.Exclusion
import CodeSearch.Walk.Ignore

/-!
# Walking a tree

`Walk.items` goes through everything below a directory: depth first, the entries of a directory by
name.  It yields the entries that are not directories and the problems met on the way.  An entry is
left out with everything below it when it has the name of the dependency directory, when the ignore
files say so, or when it is hidden and hidden entries are not wanted.

`walkFiles` selects from the items the files whose path matches a glob.
-/

namespace CodeSearch

namespace Walk

/-- What a walk yields. -/
inductive Item where
  /-- An entry that is no directory, by its path as it is shown. -/
  | entry (path : OsText)
  /-- A problem with an entry. -/
  | problem (text : String)
  deriving DecidableEq, Repr

/-- A path that the operating system refuses. -/
def Item.refused (path : OsText) (cause : OsError) : Item :=
  .problem (path.lossy ++ ": IO error for operation on " ++ path.lossy ++ ": " ++ cause.message)

/-- The directory that is being walked. -/
structure Position where
  /-- The directory. -/
  place : Place
  /-- Its path as it is shown. -/
  path : OsText
  /-- The ignore files that count in it, the nearest ones first. -/
  levels : List IgnoreLevel
  /-- The rules of the user, if they count. -/
  user : Option UserRules
  /-- The directories on the way to it and itself, the nearest one first: the names of their places
  and their paths as shown. -/
  opened : List (List OsText × OsText)

namespace Position

/-- The position in a directory that is an entry of the current one, or that such an entry links to. -/
def enter (world : World) (scan : ScanConfig) (position : Position) (name : OsText) (place : Place) :
    Position :=
  let path := Path.join position.path name
  { place
    path
    levels :=
      if scan.respectGitignore then
        IgnoreLevel.load world path "" :: position.levels.map fun level => level.descend name
      else []
    user := position.user
    opened := (place.names, path) :: position.opened }

/-- What the rules that count say about an entry of the current directory. -/
def verdict? (position : Position) (name : OsText) (isDir : Bool) : Option Verdict :=
  match IgnoreLevel.verdict? position.levels name isDir with
  | some verdict => some verdict
  | none => position.user.bind fun rules => rules.verdict? (Path.join position.path name) isDir

/-- Whether an entry of the current directory is left out. -/
def leavesOut (scan : ScanConfig) (position : Position) (name : OsText) (isDir : Bool) : Bool :=
  (match position.verdict? name isDir with
    | some .leaveOut => true
    | some .takeBack => false
    | none => !scan.includeHidden && name.bytes.head? == some dot) ||
  name == scan.dependencyDir

/-- An entry of the current directory that is no directory. -/
def item (scan : ScanConfig) (position : Position) (name : OsText) : List Item :=
  if position.leavesOut scan name false then [] else [.entry (Path.join position.path name)]

end Position

mutual

/-- Everything at and below an entry of the current directory; `onLink` takes care of links.  A
directory is opened by its path, which may be too long for that, and the user needs the right to it. -/
def entryItems (world : World) (scan : ScanConfig) (onLink : Position → OsText → List Item)
    (position : Position) (name : OsText) : Node → List Item
  | .dir access entries =>
    if position.leavesOut scan name true then []
    else if pathLimit ≤ (Path.join position.path name).size then
      [.refused (Path.join position.path name) .nameTooLong]
    else if !(position.place.node.access.searched && access.lists) then
      [.refused (Path.join position.path name) .permissionDenied]
    else
      listItems world scan onLink
        (position.enter world scan name (position.place.child name (.dir access entries))) entries
  | .link _ => onLink position name
  | _ => position.item scan name

/-- Everything at and below some entries of the current directory. -/
def listItems (world : World) (scan : ScanConfig) (onLink : Position → OsText → List Item)
    (position : Position) : List (OsText × Node) → List Item
  | [] => []
  | (name, node) :: rest =>
    entryItems world scan onLink position name node ++ listItems world scan onLink position rest

end

/-- Everything at and behind a link in the current directory.  A link that is followed counts as what
it points at, unless it points at a directory on the way to it; `links` bounds the links to directories
that are open at a time. -/
def linkItems (world : World) (scan : ScanConfig) : (links : Nat) → Position → OsText → List Item
  | 0, _, _ => []
  | links + 1, position, name =>
    if !scan.followLinks then position.item scan name
    else
      let path := Path.join position.path name
      match world.resolve path with
      | .error e => [.refused path e]
      | .ok place =>
        match place.node with
        | .dir access entries =>
          if !access.lists then [.problem OsError.permissionDenied.message]
          else match position.opened.find? (·.1 == place.names) with
          | some (_, ancestor) =>
            [.problem ("File system loop found: " ++ path.lossy ++ " points to an ancestor " ++
              ancestor.lossy)]
          | none =>
            if position.leavesOut scan name true then []
            else
              listItems world scan (linkItems world scan links)
                (position.enter world scan name place) entries
        | _ => position.item scan name

mutual

/-- The number of directories at and below a node. -/
def dirCount : Node → Nat
  | .dir _ entries => dirCounts entries + 1
  | _ => 0

/-- The number of directories at and below some entries. -/
def dirCounts : List (OsText × Node) → Nat
  | [] => 0
  | (_, node) :: rest => dirCount node + dirCounts rest

end

/-- The ignore files of the directories above a place, the nearest ones first.  None counts if the place
cannot be reached by its own path. -/
def parentLevels (world : World) (place : Place) : List IgnoreLevel :=
  match world.resolve place.path with
  | .error _ => []
  | .ok _ =>
    place.ancestors.reverse.map fun ancestor =>
      IgnoreLevel.load world ancestor.path
        ((place.names.drop ancestor.names.length).foldl (fun below name => below ++ name ++ "/") "")

/-- Everything below the directory `place`, whose path is shown as `root`.  Faults in the ignore files
above it come first. -/
def items (world : World) (scan : ScanConfig) (root : OsText) (place : Place) : List Item :=
  let parents := if scan.respectGitignore then parentLevels world place else []
  let faults := parents.reverse.flatMap IgnoreLevel.faults
  let position : Position :=
    { place
      path := root
      levels := if scan.respectGitignore then IgnoreLevel.load world root "" :: parents else []
      user := if scan.respectGitignore then UserRules.load? world else none
      opened := [(place.names, root)] }
  (if faults.isEmpty then [] else [.problem ("\n".intercalate faults)]) ++
    listItems world scan (linkItems world scan (dirCount world.tree.top + 1)) position
      place.node.entries

end Walk

/-- What a walk found: files, by their path from the root, and problems. -/
structure Walk where
  /-- The files, in the order of the walk. -/
  files : List String
  /-- The problems, in the order of the walk. -/
  problems : List String
  deriving DecidableEq, Repr

/-- A glob as given, without a leading `./`. -/
def globText (pattern : String) : String :=
  match pattern.toList with
  | '.' :: '/' :: rest => String.ofList rest
  | _ => pattern

/-- Compiles a glob. -/
def compileGlob (pattern : String) : Except SearchError Glob :=
  match Glob.parse .strict (globText pattern) with
  | .ok glob => .ok glob
  | .error e => .error (.glob (globText pattern) e)

/-- The place of a root directory, whose entries are to be listed. -/
def rootPlace (world : World) (root : OsText) : Except SearchError Place :=
  match world.resolve root with
  | .error e => .error (.ofOs root e)
  | .ok place =>
    match place.node with
    | .dir access _ => if access.lists then .ok place else .error (.ofOs root .permissionDenied)
    | _ => .error (.notDirectory root)

/-- Whether a root is taken for the standard input instead of a directory: a lone hyphen, also with
slashes or `.` after it. -/
def isStandardInput (root : OsText) : Bool :=
  match root.segments with
  | first :: rest => first == "-" && rest.all fun segment => segment == "" || segment == "."
  | [] => false

/-- The path from the root of a file that is found: one that matches and is not excluded. -/
def Walk.Item.file? (world : World) (scan : ScanConfig) (root : OsText) (glob : Glob) :
    Walk.Item → Option String
  | .entry path => (Path.relativePath root path).filter fun relative =>
      glob.accepts relative && !isExcludedCandidate world scan.dependencyDir root relative
  | .problem _ => none

/-- The text of a problem. -/
def Walk.Item.problem? : Walk.Item → Option String
  | .entry _ => none
  | .problem text => some text

/-- The files below `root` whose path matches a glob.  Whatever denotes a directory or lies in the
dependency directory is left out, also where the walk came across it. -/
def walkFiles (world : World) (scan : ScanConfig) (root : OsText) (pattern : String) :
    Except SearchError Walk := do
  let glob ← compileGlob pattern
  let place ← rootPlace world root
  let items := if isStandardInput root then [] else Walk.items world scan root place
  .ok ⟨items.filterMap (Walk.Item.file? world scan root glob), items.filterMap Walk.Item.problem?⟩

end CodeSearch
