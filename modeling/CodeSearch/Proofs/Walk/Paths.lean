import CodeSearch.Proofs.Walk.Ways

/-!
# The paths of a walk

`entryPaths` are the paths of the entries that a part of a walk yields.  The files that are found are
selected from them, path by path (`files_selected`), so what is known of the paths of two walks is known
of their files.  Only links need a look at the file system on the way: `linkStep` is what is yielded for
a link, and walks that follow the same links compare as what is behind the links does
(`linkStep_rel`).
-/

namespace CodeSearch

namespace Walk

@[simp] theorem entryPaths_nil : entryPaths [] = [] := rfl

@[simp] theorem entryPaths_append (items rest : List Item) :
    entryPaths (items ++ rest) = entryPaths items ++ entryPaths rest := List.filterMap_append

@[simp] theorem entryPaths_entry (path : OsText) : entryPaths [.entry path] = [path] := rfl

@[simp] theorem entryPaths_problem (text : String) : entryPaths [.problem text] = [] := rfl

@[simp] theorem entryPaths_refused (path : OsText) (cause : OsError) :
    entryPaths [.refused path cause] = [] := rfl

/-! ## Files by their paths -/

section Selecting

variable (world : World) (scan : ScanConfig) (root : OsText) (place : Place)

/-- The position in which a walk starts. -/
def rootPosition : Position :=
  { place
    path := root
    levels := if scan.respectGitignore then
      IgnoreLevel.load world root "" :: parentLevels world place else []
    user := if scan.respectGitignore then UserRules.load? world else none
    opened := [(place.names, root)] }

/-- The ignore files above a root yield no entries. -/
theorem entryPaths_items :
    entryPaths (items world scan root place) =
      entryPaths (listItems world scan (linkItems world scan (dirCount world.tree.top + 1))
        (rootPosition world scan root place) place.node.entries) := by
  have hfaults (faults : List String) :
      entryPaths (if faults.isEmpty then [] else [.problem ("\n".intercalate faults)]) = [] := by
    split <;> rfl
  unfold items rootPosition
  rw [entryPaths_append, hfaults, List.nil_append]
  cases scan.respectGitignore <;> rfl

variable {world scan root place}

/-- A way of names in UTF-8 is shown by the path that the walk came to. -/
theorem join_shown {way : List OsText} (hne : way ≠ []) (hway : ∀ name ∈ way, IsName name)
    (htext : ∀ name ∈ way, name.IsUtf8) (root : OsText) :
    Path.join root (shown way) = Path.extend root way := by
  have hjoined : (shown way : OsText) = OsText.joined way := by
    rw [← OsText.joined_segments (shown way), segments_shown hne hway htext]
  rw [hjoined, Path.join_joined hne hway]

end Selecting

/-! ## Links -/

section Links

variable {world : World} {path : OsText} {opened : List (List OsText × OsText)}
  {item item' : List Item} {below below' : Place → List (OsText × Node) → List Item}

/-- What is yielded for a link at a path: `item` unless the link is followed to a directory, and
`below` for a directory that can be listed and is not open. -/
def linkStep (world : World) (followLinks : Bool) (path : OsText)
    (opened : List (List OsText × OsText)) (item : List Item)
    (below : Place → List (OsText × Node) → List Item) : List Item :=
  if !followLinks then item
  else
    match world.resolve path with
    | .error e => [.refused path e]
    | .ok place =>
      match place.node with
      | .dir access entries =>
        if !access.lists then [.problem OsError.permissionDenied.message]
        else match opened.find? (·.1 == place.names) with
        | some (_, ancestor) =>
          [.problem ("File system loop found: " ++ path.lossy ++ " points to an ancestor " ++
            ancestor.lossy)]
        | none => below place entries
      | _ => item

theorem linkItems_succ (world : World) (scan : ScanConfig) (links : Nat) (position : Position)
    (name : OsText) :
    linkItems world scan (links + 1) position name =
      linkStep world scan.followLinks (Path.join position.path name) position.opened
        (position.item scan name) fun place entries =>
          if position.leavesOut scan name true then []
          else listItems world scan (linkItems world scan links)
            (position.enter world scan name place) entries := rfl

/-- Whether a path denotes something else than a directory. -/
def denotesFile (world : World) (path : OsText) : Bool :=
  match world.stat path with
  | .ok node => !node.isDir
  | .error _ => false

/-- What is yielded for a link is the link, if it is not followed or leads to something else than a
directory, or it is behind the link. -/
theorem mem_entryPaths_linkStep {followLinks : Bool} {path' : OsText}
    (h : path' ∈ entryPaths (linkStep world followLinks path opened item below)) :
    path' ∈ entryPaths item ∧ (followLinks = false ∨ denotesFile world path = true) ∨
      ∃ place access entries, world.resolve path = .ok place ∧ place.node = .dir access entries ∧
        path' ∈ entryPaths (below place entries) := by
  unfold linkStep at h
  split at h
  · rename_i hfollow
    exact .inl ⟨h, .inl (by simpa using hfollow)⟩
  split at h
  · simp at h
  rename_i place hresolve
  split at h
  · rename_i access entries hdir
    split at h
    · simp at h
    split at h
    · simp at h
    · exact .inr ⟨place, access, entries, hresolve, hdir, h⟩
  · rename_i hfile
    have hdir : place.node.isDir = false := by
      cases hnode : place.node with
      | dir access entries => exact absurd hnode (hfile access entries)
      | file | socket | link => rfl
    refine .inl ⟨h, .inr ?_⟩
    simp [denotesFile, World.stat_eq_ok_iff.2 ⟨place, hresolve, rfl⟩, hdir]

end Links

end Walk

end CodeSearch
