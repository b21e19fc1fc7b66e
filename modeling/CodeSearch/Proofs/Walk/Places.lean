import CodeSearch.Proofs.Tree.Entries
import CodeSearch.Proofs.Walk.Paths

/-!
# What the paths of a walk denote

A walk keeps the directory that it is in and the path at which it shows it, and the path leads to the
directory (`Position.Holds`).  So an entry that is no link can be looked at by its path, and a link that
is followed has been.  Three kinds of entries are yielded on trust: links that are not followed, which
may lead nowhere, entries whose path is too long for the operating system, and entries of directories
that can be listed but not searched.  A file is found by the text of its path, which is the path itself
where names are UTF-8 (`isYielded_of_walkFiles`).
-/

namespace CodeSearch

/-- A path leads to a symbolic link that is not followed itself. -/
def World.IsLink (world : World) (path : OsText) : Prop :=
  ∃ place target, world.locate path true = .ok place ∧ place.node = .link target

/-- A path leads to a name in a directory that cannot be searched. -/
def World.IsClosed (world : World) (path : OsText) : Prop :=
  ∃ directory name place, path = Path.join directory name ∧ IsName name ∧
    world.resolve directory = .ok place ∧ place.node.access.searched = false

namespace Walk

variable {world : World} {scan : ScanConfig}

/-- Why a walk yields the entry at a path. -/
inductive IsYielded (world : World) (scan : ScanConfig) (path : OsText) : Prop where
  /-- Something that is no directory is found there. -/
  | file (h : denotesFile world path = true)
  /-- The path is too long to look. -/
  | long (h : pathLimit ≤ path.size)
  /-- The directory that it is in cannot be searched. -/
  | closed (h : world.IsClosed path)
  /-- A link is there, and links are not followed. -/
  | link (hscan : scan.followLinks = false) (h : world.IsLink path)

/-- The path of a position leads to its directory, which has an entry. -/
structure Position.Holds (world : World) (position : Position) (name : OsText) (node : Node) :
    Prop where
  resolve : world.resolve position.path = .ok position.place
  lookup : lookup? position.place.node.entries name = some node

namespace Position.Holds

variable {position : Position} {name : OsText} {node : Node}

/-- A path that leads to a position leads to all entries there. -/
theorem of_resolve (h : world.resolve position.path = .ok position.place)
    {entry : OsText × Node} (hentry : entry ∈ position.place.node.entries) :
    position.Holds world entry.1 entry.2 :=
  ⟨h, (World.wellFormed_of_resolve h).dir_entries.lookup?_eq_some hentry⟩

/-- Only directories have entries, and their names are admissible. -/
theorem isName (h : position.Holds world name node) :
    IsName name ∧ ∃ access entries, position.place.node = .dir access entries := by
  obtain ⟨hresolve, hlookup⟩ := h
  have hplace := World.wellFormed_of_resolve hresolve
  cases hdir : position.place.node with
  | dir access entries =>
    rw [hdir] at hlookup hplace
    cases hplace with
    | dir hnames _ _ => exact ⟨hnames _ (mem_of_lookup?_eq_some hlookup), access, entries, rfl⟩
  | file | socket | link =>
    rw [hdir] at hlookup
    cases hlookup

/-- An entry is found at its path, if that is not too long and the directory can be searched. -/
theorem locate (h : position.Holds world name node) {keepLast : Bool}
    (hlink : node.isLink = false ∨ keepLast = true)
    (hshort : (Path.join position.path name).size < pathLimit)
    (hsearched : position.place.node.access.searched = true) :
    world.locate (Path.join position.path name) keepLast =
      .ok (position.place.child name node) := by
  obtain ⟨hname, access, entries, hdir⟩ := h.isName
  obtain ⟨hresolve, hlookup⟩ := h
  rw [hdir] at hlookup hsearched
  exact World.locate_join hresolve hdir hsearched hname hlookup hlink hshort

/-- An entry is yielded for what is found at its path, if it can be looked at. -/
theorem isYielded (h : position.Holds world name node)
    (hfound : (Path.join position.path name).size < pathLimit →
      position.place.node.access.searched = true →
      IsYielded world scan (Path.join position.path name)) :
    IsYielded world scan (Path.join position.path name) := by
  by_cases hshort : (Path.join position.path name).size < pathLimit
  · cases hsearched : position.place.node.access.searched with
    | true => exact hfound hshort hsearched
    | false => exact .closed ⟨position.path, name, position.place, rfl, h.isName.1, h.resolve, hsearched⟩
  · exact .long (Nat.not_lt.1 hshort)

/-- An entry that is neither a link nor a directory can be looked at. -/
theorem isYielded_file (h : position.Holds world name node) (hlink : node.isLink = false)
    (hdir : node.isDir = false) : IsYielded world scan (Path.join position.path name) := by
  refine h.isYielded fun hshort hsearched => .file ?_
  have hstat : world.stat (Path.join position.path name) = .ok node :=
    World.stat_eq_ok_iff.2 ⟨_, h.locate (.inl hlink) hshort hsearched, rfl⟩
  simp [denotesFile, hstat, hdir]

/-- A link that is not followed is there. -/
theorem isYielded_link {target : OsText} (h : position.Holds world name (.link target))
    (hscan : scan.followLinks = false) : IsYielded world scan (Path.join position.path name) :=
  h.isYielded fun hshort hsearched =>
    .link hscan ⟨_, target, h.locate (.inr rfl) hshort hsearched, rfl⟩

/-- The path of a directory that is entered leads to it. -/
theorem resolve_enter (scan : ScanConfig) {access : Access} {entries : List (OsText × Node)}
    (h : position.Holds world name (.dir access entries))
    (hshort : (Path.join position.path name).size < pathLimit)
    (hsearched : position.place.node.access.searched = true) :
    world.resolve
        (position.enter world scan name (position.place.child name (.dir access entries))).path =
      .ok (position.place.child name (.dir access entries)) :=
  h.locate (.inl rfl) hshort hsearched

end Position.Holds

/-- An entry of the current directory is yielded at its path. -/
theorem eq_of_mem_item {position : Position} {name path : OsText}
    (h : path ∈ entryPaths (position.item scan name)) : path = Path.join position.path name := by
  unfold Position.item at h
  split at h
  · simp at h
  · simpa using h

section Step

variable {onLink : Position → OsText → List Item}

mutual

theorem entryItems_isYielded
    (honLink : ∀ position name target, position.Holds world name (.link target) →
      ∀ path ∈ entryPaths (onLink position name), IsYielded world scan path)
    {position : Position} {name : OsText} : ∀ {node : Node}, position.Holds world name node →
    ∀ path ∈ entryPaths (entryItems world scan onLink position name node),
      IsYielded world scan path
  | .dir access entries, hnode, path, hpath => by
    rw [entryItems] at hpath
    split at hpath
    · simp at hpath
    split at hpath
    · simp at hpath
    rename_i hshort
    split at hpath
    · simp at hpath
    · rename_i hopen
      rw [Bool.not_eq_true', Bool.not_eq_false, Bool.and_eq_true] at hopen
      have hplace := hnode.resolve_enter scan (Nat.not_le.1 hshort) hopen.1
      exact listItems_isYielded honLink (fun entry hentry => .of_resolve hplace hentry) path hpath
  | .link target, hnode, path, hpath => honLink position name target hnode path hpath
  | .file _ _, hnode, path, hpath | .socket _, hnode, path, hpath => by
    rw [eq_of_mem_item hpath]
    exact hnode.isYielded_file rfl rfl

/-- What a walk yields for entries of the directory that it is in is yielded for a reason. -/
theorem listItems_isYielded
    (honLink : ∀ position name target, position.Holds world name (.link target) →
      ∀ path ∈ entryPaths (onLink position name), IsYielded world scan path)
    {position : Position} : ∀ {entries : List (OsText × Node)},
    (∀ entry ∈ entries, position.Holds world entry.1 entry.2) →
    ∀ path ∈ entryPaths (listItems world scan onLink position entries), IsYielded world scan path
  | [], _, path, hpath => by simp [listItems] at hpath
  | (name, node) :: rest, hentries, path, hpath => by
    obtain ⟨hnode, hrest⟩ := List.forall_mem_cons.1 hentries
    rw [listItems, entryPaths_append, List.mem_append] at hpath
    rcases hpath with hpath | hpath
    · exact entryItems_isYielded honLink hnode path hpath
    · exact listItems_isYielded honLink hrest path hpath

end

end Step

/-- Behind links as well: a link that is followed leads somewhere, or it is refused. -/
theorem linkItems_isYielded {links : Nat} (position : Position) (name target : OsText)
    (h : position.Holds world name (.link target)) :
    ∀ path ∈ entryPaths (linkItems world scan links position name), IsYielded world scan path := by
  induction links generalizing position name target with
  | zero => simp [linkItems]
  | succ links ih =>
    intro path hpath
    rw [linkItems_succ] at hpath
    rcases mem_entryPaths_linkStep hpath with
      ⟨hitem, hkept⟩ | ⟨place, access, entries, hresolve, hdir, hbelow⟩
    · rw [eq_of_mem_item hitem]
      exact hkept.elim h.isYielded_link .file
    · split at hbelow
      · simp at hbelow
      · -- the directory that the link leads to is where the walk goes on
        refine listItems_isYielded ih (fun entry hentry => .of_resolve hresolve ?_) path hbelow
        show entry ∈ place.node.entries
        rwa [hdir]

/-- Every path that a walk of a root comes to is yielded for a reason. -/
theorem isYielded_of_mem_walkPaths {root : OsText} {place : Place}
    (hresolve : world.resolve root = .ok place) {path : OsText}
    (h : path ∈ walkPaths world scan root place) : IsYielded world scan path := by
  unfold walkPaths at h
  split at h
  · simp at h
  · rw [entryPaths_items] at h
    refine listItems_isYielded linkItems_isYielded (fun entry hentry => ?_) path h
    have hstart : world.resolve (rootPosition world scan root place).path =
        .ok (rootPosition world scan root place).place := hresolve
    exact .of_resolve hstart hentry

/-- A file that a walk finds is a way as it is shown, and the path of the way is yielded for a reason.
Where the names of the way are UTF-8, it is the path by which the file is found. -/
theorem isYielded_of_walkFiles {root : OsText} {pattern : String} {walk : Walk}
    (h : walkFiles world scan root pattern = .ok walk) {file : String} (hfile : file ∈ walk.files) :
    ∃ way, way ≠ [] ∧ (∀ name ∈ way, world.tree.top.HasName name) ∧ file = shown way ∧
      IsYielded world scan (Path.extend root way) := by
  obtain ⟨glob, place, -, hplace, rfl⟩ := exists_selected_of_walkFiles h
  have hresolve := (rootPlace_eq_ok_iff.1 hplace).1
  obtain ⟨hways, hpaths⟩ := areWays_walkWays scan hresolve
  rw [files_eq_map_shown hresolve] at hfile
  obtain ⟨way, hmem, rfl⟩ := List.mem_map.1 hfile
  have hway := (List.mem_filter.1 hmem).1
  have hpath : Path.extend root way ∈ walkPaths world scan root place := by
    rw [hpaths]
    exact List.mem_map_of_mem hway
  exact ⟨way, hways.ne_nil way hway, hways.hasName way hway, rfl,
    isYielded_of_mem_walkPaths hresolve hpath⟩

end Walk

end CodeSearch
