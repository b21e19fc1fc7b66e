import CodeSearch.Tree.Resolve

/-!
# What never appears in a result

A path with a segment equal to the dependency directory is excluded by its name, and a path that
denotes a directory is excluded as a candidate.
-/

namespace CodeSearch

/-- The parts of a path between slashes and backslashes. -/
def nameParts (path : String) : List String := Text.pieces (fun c => c == '/' || c == '\\') path

/-- Whether some part of a path is the dependency directory. -/
def isExcludedName (dependencyDir path : String) : Bool := (nameParts path).contains dependencyDir

/-- Whether a path below `root` is excluded by its name or denotes a directory.  Only the part below
the root is looked at by name, so a root within a dependency directory can be scanned. -/
def isExcludedCandidate (world : World) (dependencyDir : String) (root : OsText) (relative : String) :
    Bool :=
  isExcludedName dependencyDir relative || world.isDir (Path.join root relative)

end CodeSearch
