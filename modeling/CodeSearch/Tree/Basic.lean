import CodeSearch.Text.Os

/-!
# Trees of files

A `Tree` is a snapshot of a file system below its top directory, as it is for one user: it also says
which files and directories the user may open.  The entries of every directory are sorted by name and no
name occurs twice, and names are what a file system admits: bytes, not empty, neither `.` nor `..`,
without `/` and NUL, and at most 255 of them.
-/

namespace CodeSearch

/-- The nanoseconds of `2 ^ 63` seconds. -/
def instantLimit : Int := 9223372036854775808 * 1000000000

/-- A point in time: nanoseconds from a fixed start, within 64 bits of seconds. -/
structure Instant where
  /-- The nanoseconds since the start. -/
  nanoseconds : Int
  /-- The seconds do not lie too far in the past. -/
  ge : -instantLimit ≤ nanoseconds
  /-- The seconds do not lie too far in the future. -/
  lt : nanoseconds < instantLimit

namespace Instant

/-- The point in time that is nearest to some number of nanoseconds. -/
def ofNanoseconds (n : Int) : Instant :=
  ⟨max (-instantLimit) (min n (instantLimit - 1)), by unfold instantLimit; omega,
    by unfold instantLimit; omega⟩

instance : Inhabited Instant := ⟨ofNanoseconds 0⟩

end Instant

/-- What a user may do with a directory. -/
structure Access where
  /-- Its entries can be listed. -/
  lists : Bool := true
  /-- Its entries can be reached by their names. -/
  searched : Bool := true
  deriving DecidableEq, Repr

/-- What stands under a name. -/
inductive Node where
  /-- A regular file; one without content cannot be opened by the user. -/
  | file (content : Option ByteArray) (modified : Instant)
  /-- A socket: it exists, but cannot be opened. -/
  | socket (modified : Instant)
  /-- A symbolic link. -/
  | link (target : OsText)
  /-- A directory. -/
  | dir (access : Access) (entries : List (OsText × Node))

/-- The longest name, in bytes. -/
def maxNameLength : Nat := 255

/-- What can stand between two slashes of a path and name an entry. -/
structure IsName (name : OsText) : Prop where
  ne_empty : name ≠ ""
  ne_dot : name ≠ "."
  ne_dotdot : name ≠ ".."
  no_slash : slash ∉ name.bytes
  no_nul : 0 ∉ name.bytes
  short : name.size ≤ maxNameLength

instance (name : OsText) : Decidable (IsName name) :=
  decidable_of_iff (name ≠ "" ∧ name ≠ "." ∧ name ≠ ".." ∧ slash ∉ name.bytes ∧
      0 ∉ name.bytes ∧ name.size ≤ maxNameLength)
    ⟨fun ⟨a, b, c, d, e, f⟩ => ⟨a, b, c, d, e, f⟩, fun ⟨a, b, c, d, e, f⟩ => ⟨a, b, c, d, e, f⟩⟩

namespace Node

/-- Every directory at and below a node has admissible names in increasing order. -/
inductive WellFormed : Node → Prop where
  | file {content modified} : WellFormed (.file content modified)
  | socket {modified} : WellFormed (.socket modified)
  | link {target} : WellFormed (.link target)
  | dir {access} {entries : List (OsText × Node)} (names : ∀ e ∈ entries, IsName e.1)
      (sorted : entries.Pairwise (·.1 < ·.1)) (children : ∀ e ∈ entries, WellFormed e.2) :
      WellFormed (.dir access entries)

/-- Whether a node is a directory. -/
def isDir : Node → Bool
  | dir _ _ => true
  | _ => false

/-- Whether a node is a regular file. -/
def isFile : Node → Bool
  | file _ _ => true
  | _ => false

/-- Whether a node is a symbolic link. -/
def isLink : Node → Bool
  | link _ => true
  | _ => false

/-- When a node was last modified; directories and links keep no time. -/
def modified? : Node → Option Instant
  | file _ modified | socket modified => some modified
  | _ => none

/-- The entries of a directory; other nodes have none. -/
def entries : Node → List (OsText × Node)
  | dir _ entries => entries
  | _ => []

/-- What the user may do with a directory. -/
def access : Node → Access
  | dir access _ => access
  | _ => {}

end Node

/-- The entry with a given name. -/
def lookup? (entries : List (OsText × Node)) (name : OsText) : Option Node :=
  (entries.find? (·.1 == name)).map (·.2)

/-- A file system as it is for a user. -/
structure Tree where
  /-- The entries of the top directory. -/
  entries : List (OsText × Node)
  /-- What the user may do with the top directory. -/
  access : Access := {}
  /-- Names are admissible and sorted throughout. -/
  wellFormed : (Node.dir access entries).WellFormed
  /-- The path of the file of the user's own ignore rules, if the settings of the user name one. -/
  userIgnore : Option OsText := none

namespace Tree

/-- The file system without any entry. -/
def empty : Tree where
  entries := []
  wellFormed := .dir (by simp) (by simp) (by simp)

/-- The top directory. -/
def top (tree : Tree) : Node := .dir tree.access tree.entries

end Tree

end CodeSearch
