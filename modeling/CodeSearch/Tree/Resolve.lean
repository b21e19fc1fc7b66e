import CodeSearch.Path
import CodeSearch.Tree.Basic

/-!
# Finding the node that a path denotes

`Tree.locate` follows a path through a tree, segment by segment and through symbolic links, and ends
at a `Place`: the node together with the directories that lead to it.  `World` adds what paths and
times are relative to, the working directory and the clock; `World.stat` and `World.readText` are what
programs ask of a file system.
-/

namespace CodeSearch

/-- Why the operating system refuses an operation. -/
inductive OsError where
  | notFound
  | permissionDenied
  | notDirectory
  | isDirectory
  | nameTooLong
  | tooManyLinks
  | noDevice
  | nulInPath
  | notUtf8
  deriving DecidableEq, Repr

/-- The text of an error. -/
def OsError.message : OsError → String
  | notFound => "No such file or directory (os error 2)"
  | permissionDenied => "Permission denied (os error 13)"
  | notDirectory => "Not a directory (os error 20)"
  | isDirectory => "Is a directory (os error 21)"
  | nameTooLong => "File name too long (os error 36)"
  | tooManyLinks => "Too many levels of symbolic links (os error 40)"
  | noDevice => "No such device or address (os error 6)"
  | nulInPath => "file name contained an unexpected NUL byte"
  | notUtf8 => "stream did not contain valid UTF-8"

/-- A node and the way to it: the names and nodes from it up to the top directory. -/
structure Place where
  /-- The top directory. -/
  top : Node
  /-- The names and nodes on the way, the last one first. -/
  trail : List (OsText × Node)

namespace Place

/-- The node itself. -/
def node (place : Place) : Node :=
  match place.trail with
  | [] => place.top
  | (_, node) :: _ => node

/-- The names that lead to the node. -/
def names (place : Place) : List OsText := (place.trail.map (·.1)).reverse

/-- The path of the node, free of links. -/
def path (place : Place) : OsText := "/" ++ .joined place.names

/-- The place of an entry. -/
def child (place : Place) (name : OsText) (node : Node) : Place :=
  ⟨place.top, (name, node) :: place.trail⟩

/-- The place of the directory above; the top is above itself. -/
def parent (place : Place) : Place := ⟨place.top, place.trail.drop 1⟩

/-- The top directory of the same file system. -/
def root (place : Place) : Place := ⟨place.top, []⟩

/-- The directories above a place, from the top down. -/
def ancestors (place : Place) : List Place :=
  (List.range place.trail.length).map fun n => ⟨place.top, place.trail.drop (place.trail.length - n)⟩

end Place

/-- The number of symbolic links that one path may lead through. -/
def maxLinks : Nat := 40

/-- The length in bytes from which a path is too long. -/
def pathLimit : Nat := 4096

/-- Follows segments from a place.  `onLink` goes on behind a symbolic link, given the directory that
holds it, its target and the segments after it; with `keepLast`, a link at the very end is kept. -/
def followSegments (onLink : Place → OsText → List OsText → Except OsError Place) (keepLast : Bool)
    (place : Place) : List OsText → Except OsError Place
  | [] => .ok place
  | segment :: rest =>
    match place.node with
    | .dir access entries =>
      if segment ≠ "" ∧ access.searched = false then .error .permissionDenied
      else if segment = "" ∨ segment = "." then followSegments onLink keepLast place rest
      else if segment = ".." then followSegments onLink keepLast place.parent rest
      else if maxNameLength < segment.size then .error .nameTooLong
      else match lookup? entries segment with
        | none => .error .notFound
        | some (.link target) =>
          if keepLast ∧ rest.isEmpty then .ok (place.child segment (.link target))
          else onLink place target rest
        | some node => followSegments onLink keepLast (place.child segment node) rest
    | _ => .error .notDirectory

/-- Follows segments from a place through at most `links` symbolic links. -/
def follow (keepLast : Bool) : (links : Nat) → Place → List OsText → Except OsError Place
  | 0, place, segments =>
    followSegments (fun _ _ _ => .error .tooManyLinks) keepLast place segments
  | links + 1, place, segments =>
    followSegments (fun directory target rest =>
      let start := if Path.isAbsolute target then directory.root else directory
      if target = "" then .error .notFound
      else follow keepLast links start (target.segments ++ rest)) keepLast place segments

/-- The place that names lead to from a directory, without a link on the way, if it is a directory. -/
def Place.descend? (place : Place) : List OsText → Option Place
  | [] => if place.node.isDir then some place else none
  | name :: rest => (lookup? place.node.entries name).bind fun node =>
      (place.child name node).descend? rest

/-- A file system as a program sees it. -/
structure World where
  /-- All files. -/
  tree : Tree
  /-- The path of the working directory, free of links. -/
  workingDirectory : OsText
  /-- The time on the clock. -/
  now : Instant

namespace World

/-- The place of the top directory. -/
def top (world : World) : Place := ⟨world.tree.top, []⟩

/-- The place of the working directory, if it exists. -/
def workingPlace? (world : World) : Option Place :=
  if Path.isAbsolute world.workingDirectory then
    world.top.descend? (Path.Folded.ofPath world.workingDirectory).names
  else none

/-- The path of the working directory. -/
def currentDirectory (world : World) : Except OsError OsText :=
  if world.workingPlace?.isSome then .ok world.workingDirectory else .error .notFound

/-- The place from which a path is followed. -/
def start (world : World) (path : OsText) : Except OsError Place :=
  if Path.isAbsolute path then .ok world.top
  else match world.workingPlace? with
    | some place => .ok place
    | none => .error .notFound

/-- The place that a path denotes. -/
def locate (world : World) (path : OsText) (keepLast : Bool) : Except OsError Place :=
  if path = "" then .error .notFound
  else if 0 ∈ path.bytes then .error .nulInPath
  else if pathLimit ≤ path.size then .error .nameTooLong
  else (world.start path).bind fun place => follow keepLast maxLinks place path.segments

/-- The place that a path denotes once all links are followed. -/
def resolve (world : World) (path : OsText) : Except OsError Place := world.locate path false

/-- The node that a path denotes once all links are followed. -/
def stat (world : World) (path : OsText) : Except OsError Node :=
  (world.resolve path).map Place.node

/-- Whether a path denotes a regular file. -/
def isFile (world : World) (path : OsText) : Bool :=
  match world.stat path with
  | .ok node => node.isFile
  | .error _ => false

/-- Whether a path denotes a directory. -/
def isDir (world : World) (path : OsText) : Bool :=
  match world.stat path with
  | .ok node => node.isDir
  | .error _ => false

/-- Whether a path denotes anything. -/
def exists? (world : World) (path : OsText) : Bool :=
  match world.stat path with
  | .ok _ => true
  | .error _ => false

/-- The bytes of the file that a path denotes. -/
def readBytes (world : World) (path : OsText) : Except OsError ByteArray :=
  match world.stat path with
  | .error e => .error e
  | .ok (.file (some content) _) => .ok content
  | .ok (.file none _) => .error .permissionDenied
  | .ok (.dir _ _) => .error .isDirectory
  | .ok _ => .error .noDevice

/-- The text of the file that a path denotes. -/
def readText (world : World) (path : OsText) : Except OsError String :=
  match world.readBytes path with
  | .error e => .error e
  | .ok content =>
    match String.fromUTF8? content with
    | some text => .ok text
    | none => .error .notUtf8

end World

end CodeSearch
