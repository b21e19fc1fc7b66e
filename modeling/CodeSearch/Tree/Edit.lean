import CodeSearch.Tree.Resolve

/-!
# Changing a tree

`World.put` writes an entry, making the directories on its way, and `World.remove` takes one away with
everything below it.  Both keep the entries of every directory sorted and their names admissible, which
`Node.WellFormed.updateAt` reduces to the change of a single directory.
-/

namespace CodeSearch

/-- Puts an entry into sorted entries, in place of one with the same name. -/
def insertEntry (name : OsText) (node : Node) : List (OsText × Node) → List (OsText × Node)
  | [] => [(name, node)]
  | entry :: rest =>
    if name < entry.1 then (name, node) :: entry :: rest
    else if name = entry.1 then (name, node) :: rest
    else entry :: insertEntry name node rest

/-- Takes the entry with a given name out of entries. -/
def eraseEntry (name : OsText) (entries : List (OsText × Node)) : List (OsText × Node) :=
  entries.filter (·.1 != name)

/-- Gives a directory other access rights. -/
def Node.withAccess (access : Access) : Node → Node
  | dir _ entries => .dir access entries
  | node => node

/-- Gives the directory with a given name other access rights. -/
def setAccess (name : OsText) (access : Access) (entries : List (OsText × Node)) :
    List (OsText × Node) :=
  entries.map fun entry => (entry.1, if entry.1 = name then entry.2.withAccess access else entry.2)

theorem mem_insertEntry {name : OsText} {node : Node} {entries : List (OsText × Node)}
    {entry : OsText × Node} (h : entry ∈ insertEntry name node entries) :
    entry = (name, node) ∨ entry ∈ entries := by
  induction entries with
  | nil => simpa [insertEntry] using h
  | cons first rest ih =>
    simp only [insertEntry] at h
    split at h
    · simpa using h
    · split at h
      · rcases List.mem_cons.1 h with h | h
        · exact .inl h
        · exact .inr (List.mem_cons_of_mem _ h)
      · rcases List.mem_cons.1 h with h | h
        · exact .inr (by simp [h])
        · exact (ih h).imp_right (List.mem_cons_of_mem _)

theorem sorted_insertEntry {name : OsText} {node : Node} {entries : List (OsText × Node)}
    (h : entries.Pairwise (·.1 < ·.1)) : (insertEntry name node entries).Pairwise (·.1 < ·.1) := by
  induction entries with
  | nil => simp [insertEntry]
  | cons first rest ih =>
    obtain ⟨hfirst, hrest⟩ := List.pairwise_cons.1 h
    simp only [insertEntry]
    split
    · rename_i hlt
      refine List.pairwise_cons.2 ⟨fun e he => ?_, h⟩
      rcases List.mem_cons.1 he with rfl | he
      · exact hlt
      · exact OsText.lt_trans hlt (hfirst e he)
    · split
      · rename_i heq
        exact List.pairwise_cons.2 ⟨fun e he => heq ▸ hfirst e he, hrest⟩
      · rename_i hlt hne
        refine List.pairwise_cons.2 ⟨fun e he => ?_, ih hrest⟩
        rcases mem_insertEntry he with rfl | he
        · exact Decidable.byContradiction fun hge =>
            hne (OsText.eq_of_not_lt hlt hge)
        · exact hfirst e he

namespace Node

/-- Changes the entries of the directory that some names lead to. -/
def updateAt (change : List (OsText × Node) → List (OsText × Node)) : List OsText → Node → Node
  | [], dir access entries => .dir access (change entries)
  | name :: rest, dir access entries =>
    .dir access (entries.map fun entry =>
      (entry.1, if entry.1 = name then updateAt change rest entry.2 else entry.2))
  | _, node => node

theorem WellFormed.updateAt {change : List (OsText × Node) → List (OsText × Node)}
    (hchange : ∀ access entries, (Node.dir access entries).WellFormed →
      (Node.dir access (change entries)).WellFormed)
    (names : List OsText) {node : Node} (h : node.WellFormed) :
    (node.updateAt change names).WellFormed := by
  induction names generalizing node with
  | nil =>
    cases node with
    | dir access entries => simpa [Node.updateAt] using hchange access entries h
    | _ => simpa [Node.updateAt] using h
  | cons name rest ih =>
    cases h with
    | dir hnames hsorted hchildren =>
      simp only [Node.updateAt]
      refine .dir (fun e he => ?_) ?_ fun e he => ?_
      · obtain ⟨old, hold, rfl⟩ := List.mem_map.1 he
        exact hnames old hold
      · rw [List.pairwise_map]
        exact hsorted
      · obtain ⟨old, hold, rfl⟩ := List.mem_map.1 he
        dsimp only
        split
        · exact ih (hchildren old hold)
        · exact hchildren old hold
    | _ => simpa [Node.updateAt] using by constructor

/-- Writing an entry keeps a directory well formed. -/
theorem WellFormed.insertEntry {name : OsText} (hname : IsName name) {node : Node}
    (hnode : node.WellFormed) (access : Access) (entries : List (OsText × Node))
    (h : (Node.dir access entries).WellFormed) :
    (Node.dir access (CodeSearch.insertEntry name node entries)).WellFormed := by
  cases h with
  | dir hnames hsorted hchildren =>
    refine .dir (fun e he => ?_) (sorted_insertEntry hsorted) fun e he => ?_
    · rcases mem_insertEntry he with rfl | he
      · exact hname
      · exact hnames e he
    · rcases mem_insertEntry he with rfl | he
      · exact hnode
      · exact hchildren e he

/-- Taking an entry away keeps a directory well formed. -/
theorem WellFormed.eraseEntry (name : OsText) (access : Access) (entries : List (OsText × Node))
    (h : (Node.dir access entries).WellFormed) :
    (Node.dir access (CodeSearch.eraseEntry name entries)).WellFormed := by
  cases h with
  | dir hnames hsorted hchildren =>
    exact .dir (fun e he => hnames e ((List.mem_filter.1 he).1)) (hsorted.filter _)
      fun e he => hchildren e ((List.mem_filter.1 he).1)

theorem WellFormed.withAccess {node : Node} (h : node.WellFormed) (access : Access) :
    (node.withAccess access).WellFormed := by
  cases h with
  | dir hnames hsorted hchildren => exact .dir hnames hsorted hchildren
  | _ => constructor

/-- Giving an entry other access rights keeps a directory well formed. -/
theorem WellFormed.setAccess (name : OsText) (given access : Access) (entries : List (OsText × Node))
    (h : (Node.dir access entries).WellFormed) :
    (Node.dir access (CodeSearch.setAccess name given entries)).WellFormed := by
  cases h with
  | dir hnames hsorted hchildren =>
    refine .dir (fun e he => ?_) ?_ fun e he => ?_
    · obtain ⟨old, hold, rfl⟩ := List.mem_map.1 he
      exact hnames old hold
    · rw [CodeSearch.setAccess, List.pairwise_map]
      exact hsorted
    · obtain ⟨old, hold, rfl⟩ := List.mem_map.1 he
      dsimp only
      split
      · exact (hchildren old hold).withAccess given
      · exact hchildren old hold

theorem WellFormed.entries {node : Node} (h : node.WellFormed) (access : Access) :
    (Node.dir access node.entries).WellFormed := by
  cases h with
  | dir hnames hsorted hchildren => exact .dir hnames hsorted hchildren
  | _ => exact .dir (by simp [Node.entries]) (by simp [Node.entries]) (by simp [Node.entries])

end Node

namespace Tree

/-- Changes the entries of the directory that some names lead to. -/
def updateAt (tree : Tree) (names : List OsText)
    (change : List (OsText × Node) → List (OsText × Node))
    (h : ∀ access entries, (Node.dir access entries).WellFormed →
      (Node.dir access (change entries)).WellFormed) : Tree :=
  { tree with
    entries := (tree.top.updateAt change names).entries
    wellFormed := (Node.WellFormed.updateAt h names tree.wellFormed).entries tree.access }

/-- Writes an entry into the directory that some names lead to; a name that no entry can have is not
written. -/
def insertAt (tree : Tree) (names : List OsText) (name : OsText) (node : Node)
    (h : node.WellFormed) : Tree :=
  if hname : IsName name then
    tree.updateAt names (insertEntry name node) (Node.WellFormed.insertEntry hname h)
  else tree

/-- Takes an entry out of the directory that some names lead to. -/
def eraseAt (tree : Tree) (names : List OsText) (name : OsText) : Tree :=
  tree.updateAt names (eraseEntry name) (Node.WellFormed.eraseEntry name)

/-- Gives an entry of the directory that some names lead to other access rights. -/
def setAccessAt (tree : Tree) (names : List OsText) (name : OsText) (access : Access) : Tree :=
  tree.updateAt names (setAccess name access) (Node.WellFormed.setAccess name access)

end Tree

/-- An entry that can be written. -/
inductive NewEntry where
  | file (content : Option ByteArray) (modified : Instant)
  | socket (modified : Instant)
  | link (target : OsText)
  | dir (access : Access := {})

/-- The node that a new entry becomes. -/
def NewEntry.node : NewEntry → Node
  | file content modified => .file content modified
  | socket modified => .socket modified
  | link target => .link target
  | dir access => .dir access []

theorem NewEntry.wellFormed_node (entry : NewEntry) : entry.node.WellFormed := by
  cases entry with
  | dir => exact .dir (by simp) (by simp) (by simp)
  | _ => constructor

namespace World

/-- Writes an entry into an existing directory; a directory that is there already keeps its entries. -/
def putInto (world : World) (directory : Place) (name : OsText) (entry : NewEntry) : World :=
  match entry, lookup? directory.node.entries name with
  | .dir access, some (.dir _ _) =>
    { world with tree := world.tree.setAccessAt directory.names name access }
  | entry, _ =>
    { world with tree := world.tree.insertAt directory.names name entry.node entry.wellFormed_node }

/-- Makes all directories on the way of a path. -/
def makeDirs (world : World) (path : OsText) : World :=
  (List.range path.segments.length).foldl (fun world n =>
    let above := OsText.joined (path.segments.take n)
    match path.segments[n]?, world.resolve (above ++ "/") with
    | some name, .ok directory =>
      if world.exists? (OsText.joined (path.segments.take (n + 1)) ++ "/") then world
      else world.putInto directory name .dir
    | _, _ => world) world

/-- The directory part and the last name of a path. -/
def splitLast (path : OsText) : OsText × OsText :=
  let segments := path.segments.filter fun segment : OsText => segment ≠ ""
  ("/" ++ OsText.joined segments.dropLast, segments.getLast?.getD "")

/-- Writes an entry at an absolute path, making the directories on its way. -/
def put (world : World) (path : OsText) (entry : NewEntry) : World :=
  let (directory, name) := splitLast path
  let world := world.makeDirs directory
  match world.resolve directory with
  | .ok place => world.putInto place name entry
  | .error _ => world

/-- Takes away what stands at an absolute path, without following a link at its end; `none` when there
is nothing. -/
def remove? (world : World) (path : OsText) : Option World :=
  match world.locate path true with
  | .ok place =>
    match place.trail with
    | [] => none
    | (name, _) :: _ => some { world with tree := world.tree.eraseAt place.parent.names name }
  | .error _ => none

end World

end CodeSearch
