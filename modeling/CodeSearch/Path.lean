import CodeSearch.Text.Os

/-!
# Paths as texts

A path is the text of the operating system that it was given as; nothing here looks at a tree.
`Path.join` puts one text below another, `Path.normal` folds `.` and `..` lexically, and
`Path.relativePath` names a path from a root.  A name from a root is a text, so where the bytes of a
path are not UTF-8 it does not say what they are.

The folded form is a value of its own, `Folded`: whether the path is absolute, how many `..` are left
in front, and the plain names after them.  Two spellings denote the same place lexically exactly when
they fold to the same `Folded`.
-/

namespace CodeSearch.Path

/-- Whether a path starts at the top of the tree. -/
def isAbsolute (path : OsText) : Bool := path.bytes.head? == some slash

/-- `path` as seen from `base`: an absolute path stands for itself. -/
def join (base path : OsText) : OsText :=
  if isAbsolute path then path
  else if base.bytes.getLast?.all (· == slash) then base ++ path
  else base ++ "/" ++ path

/-- A path with its `.` and `..` folded away. -/
structure Folded where
  /-- The path starts at the top of the tree. -/
  absolute : Bool
  /-- The number of `..` that no name in front of them could take up. -/
  ups : Nat
  /-- The plain names that follow. -/
  names : List OsText
  deriving DecidableEq, Repr

namespace Folded

/-- One step towards the parent; the top of the tree is its own parent. -/
def up (f : Folded) : Folded :=
  if f.names.isEmpty then
    if f.absolute then f else { f with ups := f.ups + 1 }
  else { f with names := f.names.dropLast }

/-- Follows one segment of a path. -/
def step (f : Folded) (segment : OsText) : Folded :=
  if segment = "" ∨ segment = "." then f
  else if segment = ".." then f.up
  else { f with names := f.names ++ [segment] }

/-- The folded form of a path text. -/
def ofPath (path : OsText) : Folded :=
  path.segments.foldl step ⟨isAbsolute path, 0, []⟩

/-- The text of a folded path; the empty text is the starting directory of a relative one. -/
def render (f : Folded) : OsText :=
  (if f.absolute then "/" else "" : OsText) ++ .joined (List.replicate f.ups (".." : OsText) ++ f.names)

/-- The names that lead from `root` to `f`, if `f` lies at or below `root`. -/
def below? (root f : Folded) : Option (List OsText) :=
  if root.absolute = f.absolute ∧ root.ups = f.ups ∧ root.names <+: f.names then
    some (f.names.drop root.names.length)
  else none

end Folded

/-- `path` with `.` dropped and `..` folded into what stands before it. -/
def normal (path : OsText) : OsText := (Folded.ofPath path).render

/-- The names that lead from `root` to `path` once both are folded; none for the root itself. -/
def namesBelow? (root path : OsText) : Option (List OsText) :=
  (Folded.ofPath root).below? (Folded.ofPath path)

/-- The names that lead from `root` to `path`, as texts. -/
def segmentsBelow? (root path : OsText) : Option (List String) :=
  (namesBelow? root path).map fun names => names.map OsText.lossy

/-- The `/`-separated name of `path` from `root`; `none` outside `root` and for `root` itself. -/
def relativePath (root path : OsText) : Option String :=
  match segmentsBelow? root path with
  | none | some [] => none
  | some segments => some ("/".intercalate segments)

/-- The last name of a path, trailing `/` and `.` aside; `none` after `..` and for the top. -/
def fileName? (path : OsText) : Option OsText :=
  (path.segments.reverse.find? fun s : OsText => s ≠ "" ∧ s ≠ ".").filter (· ≠ "..")

/-- A name cut at its last dot, if that dot is not its first character. -/
def splitExtension? (name : OsText) : Option (OsText × OsText) :=
  if name = ".." then none
  else match name.bytes.reverse.span (· ≠ dot) with
    | (_, []) | (_, [_]) => none
    | (extension, _ :: stem) => some (⟨stem.reverse⟩, ⟨extension.reverse⟩)

/-- Whether the last name of a path has an extension, which may be empty. -/
def hasExtension (path : OsText) : Bool :=
  ((fileName? path).bind splitExtension?).isSome

/-- The last name of a path without its last extension. -/
def fileStem? (path : OsText) : Option OsText :=
  (fileName? path).map fun name => ((splitExtension? name).map (·.1)).getD name

/-- The directory above an absolute path text; the top has none. -/
def parent? (path : OsText) : Option OsText :=
  let folded := Folded.ofPath path
  if folded.names.isEmpty then none else some folded.up.render

/-- A path and the directories above it, nearest first. -/
def selfAndAbove (path : OsText) : List OsText :=
  let folded := Folded.ofPath path
  (List.range (folded.names.length + 1)).map fun n =>
    ({ folded with names := folded.names.take (folded.names.length - n) } : Folded).render

end CodeSearch.Path
