import CodeSearch.Proofs.Tree.Outline
import CodeSearch.Proofs.Walk.Ways

/-!
# What a walk depends on

A walk asks a file system where paths lead, and, if it heeds ignore files, what those hold.  It asks
only for its root, for paths below it and for absolute paths.  Two file systems that are `Alike` as far
as it asks yield the same walk (`walkFiles_congr`): contents of files count only through ignore files,
and for an absolute root the working directory counts only through the ignore rules of the user.
-/

namespace CodeSearch

/-- What a place leads to is a directory in both of two file systems, or in neither. -/
theorem Node.isDir_outline (node : Node) : node.outline.isDir = node.isDir := by
  cases node <;> rfl

namespace Walk

/-- Two file systems in which the paths that a walk asks for lead to the same places, and hold the same
where it heeds ignore files.  `asks` says of which paths this is known. -/
structure Alike (scan : ScanConfig) (asks : OsText → Prop) (world other : World) : Prop where
  top : world.tree.top.outline = other.tree.top.outline
  below : ∀ base path, asks base → asks (Path.join base path)
  absolute : ∀ path, Path.isAbsolute path = true → asks path
  resolve : ∀ path, asks path →
    (world.resolve path).map Place.outline = (other.resolve path).map Place.outline
  readBytes : scan.respectGitignore = true → ∀ path, asks path →
    world.readBytes path = other.readBytes path
  user : scan.respectGitignore = true → UserRules.load? world = UserRules.load? other

namespace Alike

variable {scan : ScanConfig} {asks : OsText → Prop} {world other : World}
  (h : Alike scan asks world other)
include h

theorem isDir_eq {path : OsText} (hpath : asks path) : world.isDir path = other.isDir path := by
  unfold World.isDir World.stat
  rcases Place.outline_cases (h.resolve path hpath) with
    ⟨e, hworld, hother⟩ | ⟨place, place', hworld, hother, hplace⟩
  · rw [hworld, hother]
  · rw [hworld, hother]
    show place.node.isDir = place'.node.isDir
    rw [← Node.isDir_outline, Place.node_congr hplace, Node.isDir_outline]

theorem load_eq (hignore : scan.respectGitignore = true) {path : OsText} (hpath : asks path)
    (below : OsText) : IgnoreLevel.load world path below = IgnoreLevel.load other path below := by
  have hfile : ∀ name : String, IgnoreFile.load world (Path.join path name) =
      IgnoreFile.load other (Path.join path name) := by
    intro name
    unfold IgnoreFile.load
    rw [h.readBytes hignore _ (h.below path name hpath)]
  unfold IgnoreLevel.load
  simp only [hfile]

end Alike

/-! ## Positions -/

/-- A position without what files hold. -/
def Position.outline (position : Position) : Position :=
  { position with place := position.place.outline }

theorem Position.item_congr {position position' : Position}
    (hposition : position.outline = position'.outline) (scan : ScanConfig) (name : OsText) :
    position.item scan name = position'.item scan name :=
  congrArg (fun position => position.item scan name) hposition

theorem Position.leavesOut_congr {position position' : Position}
    (hposition : position.outline = position'.outline) (scan : ScanConfig) (name : OsText)
    (isDir : Bool) : position.leavesOut scan name isDir = position'.leavesOut scan name isDir :=
  congrArg (fun position => position.leavesOut scan name isDir) hposition

theorem Position.path_congr {position position' : Position}
    (hposition : position.outline = position'.outline) : position.path = position'.path :=
  congrArg (·.path) hposition

section Step

variable {scan : ScanConfig} {asks : OsText → Prop} {world other : World}

theorem Position.enter_congr (h : Alike scan asks world other) {position position' : Position}
    (hposition : position.outline = position'.outline) (hasks : asks position.path) (name : OsText)
    {place place' : Place} (hplace : place.outline = place'.outline) :
    (position.enter world scan name place).outline =
      (position'.enter other scan name place').outline := by
  have hnames := Place.names_congr hplace
  have hpath := Position.path_congr hposition
  have hlevels : position.levels = position'.levels := congrArg (·.levels) hposition
  have hopened : position.opened = position'.opened := congrArg (·.opened) hposition
  have huser : position.user = position'.user := congrArg (·.user) hposition
  have hload : scan.respectGitignore = true →
      IgnoreLevel.load world (Path.join position'.path name) "" =
        IgnoreLevel.load other (Path.join position'.path name) "" := fun hignore =>
    h.load_eq hignore (h.below _ name (hpath ▸ hasks)) ""
  unfold Position.enter Position.outline
  simp only [hplace, hnames, hpath, hlevels, hopened, huser]
  by_cases hignore : scan.respectGitignore = true
  · rw [if_pos hignore, if_pos hignore, hload hignore]
  · rw [if_neg hignore, if_neg hignore]

variable {onLink onLink' : Position → OsText → List Item}

mutual

theorem entryItems_congr (h : Alike scan asks world other)
    (honLink : ∀ position position' name, position.outline = position'.outline →
      asks position.path → onLink position name = onLink' position' name)
    {position position' : Position} (hposition : position.outline = position'.outline)
    (hasks : asks position.path)
    (name : OsText) : ∀ (node : Node) {node' : Node}, node.outline = node'.outline →
      entryItems world scan onLink position name node =
        entryItems other scan onLink' position' name node'
  | .dir access entries, node', hnode => by
    cases node' with
    | dir access' entries' =>
      have hpath := Position.path_congr hposition
      have htop : position.place.outline = position'.place.outline := congrArg (·.place) hposition
      have hplace : (position.place.child name (.dir access entries)).outline =
          (position'.place.child name (.dir access' entries')).outline := by
        rw [← Place.child_outline, ← Place.child_outline, htop, hnode]
      obtain ⟨rfl, hentries⟩ : access = access' ∧ Node.outlines entries = Node.outlines entries' := by
        simpa only [Node.outline, Node.dir.injEq] using hnode
      rw [entryItems, entryItems, Position.leavesOut_congr hposition, hpath, Place.access_congr htop,
        listItems_congr h honLink (Position.enter_congr h hposition hasks name hplace)
          (h.below _ name hasks) entries hentries]
    | file | socket | link => simp [Node.outline] at hnode
  | .link target, node', hnode => by
    cases node' with
    | link target' => exact honLink _ _ name hposition hasks
    | file | socket | dir => simp [Node.outline] at hnode
  | .file content modified, node', hnode => by
    cases node' with
    | file => exact Position.item_congr hposition scan name
    | socket | link | dir => simp [Node.outline] at hnode
  | .socket modified, node', hnode => by
    cases node' with
    | socket => exact Position.item_congr hposition scan name
    | file | link | dir => simp [Node.outline] at hnode

theorem listItems_congr (h : Alike scan asks world other)
    (honLink : ∀ position position' name, position.outline = position'.outline →
      asks position.path → onLink position name = onLink' position' name)
    {position position' : Position} (hposition : position.outline = position'.outline)
    (hasks : asks position.path) :
    ∀ (entries : List (OsText × Node)) {entries' : List (OsText × Node)},
      Node.outlines entries = Node.outlines entries' →
        listItems world scan onLink position entries =
          listItems other scan onLink' position' entries'
  | [], entries', hentries => by
    cases entries' with
    | nil => rfl
    | cons => simp [Node.outlines] at hentries
  | (name, node) :: rest, entries', hentries => by
    cases entries' with
    | nil => simp [Node.outlines] at hentries
    | cons entry' rest' =>
      rw [Node.outlines, Node.outlines] at hentries
      obtain ⟨hentry, hrest⟩ := List.cons.inj hentries
      obtain ⟨rfl, hnode⟩ := Prod.mk.inj hentry
      rw [listItems, listItems, entryItems_congr h honLink hposition hasks entry'.1 node hnode,
        listItems_congr h honLink hposition hasks rest hrest]

end

/-- Links are followed alike, since they lead to the same places. -/
theorem linkItems_congr (h : Alike scan asks world other) (links : Nat)
    (position position' : Position) (name : OsText)
    (hposition : position.outline = position'.outline) (hasks : asks position.path) :
    linkItems world scan links position name = linkItems other scan links position' name := by
  induction links generalizing position position' name with
  | zero => rfl
  | succ links ih =>
    have hpath := Position.path_congr hposition
    have hopened : position.opened = position'.opened := congrArg (·.opened) hposition
    have hlinked := h.below _ name hasks
    have hresolve := h.resolve _ hlinked
    rw [hpath] at hresolve
    rw [linkItems, linkItems, Position.item_congr hposition, hpath]
    dsimp only
    rcases Place.outline_cases hresolve with
      ⟨e, hworld, hother⟩ | ⟨place, place', hworld, hother, hplace⟩
    · rw [hworld, hother]
    · have hnode := Place.node_congr hplace
      rw [hworld, hother]
      dsimp only
      rw [hopened, Place.names_congr hplace]
      cases hentries : place.node with
      | dir access entries =>
        cases hentries' : place'.node with
        | dir access' entries' =>
          obtain ⟨rfl, houtlines⟩ : access = access' ∧
              Node.outlines entries = Node.outlines entries' := by
            simpa only [hentries, hentries', Node.outline, Node.dir.injEq] using hnode
          dsimp only
          rw [Position.leavesOut_congr hposition,
            listItems_congr h ih (Position.enter_congr h hposition hasks name hplace) hlinked
              entries houtlines]
        | file | socket | link => simp [hentries, hentries', Node.outline] at hnode
      | file | socket | link =>
        cases hentries' : place'.node with
        | dir access' entries' => simp [hentries, hentries', Node.outline] at hnode
        | file | socket | link => rfl

end Step

/-! ## Whole walks -/

mutual

theorem dirCount_outline : ∀ node : Node, dirCount node.outline = dirCount node
  | .dir _ entries => by rw [Node.outline, dirCount, dirCount, dirCounts_outlines entries]
  | .file _ _ | .socket _ | .link _ => rfl

theorem dirCounts_outlines : ∀ entries : List (OsText × Node),
    dirCounts (Node.outlines entries) = dirCounts entries
  | [] => rfl
  | (name, node) :: rest => by
    rw [Node.outlines, dirCounts, dirCounts, dirCount_outline node, dirCounts_outlines rest]

end

variable {scan : ScanConfig} {asks : OsText → Prop} {world other : World}

/-- The ignore files above a place are those above its outline. -/
theorem parentLevels_outline (world : World) (place : Place) :
    parentLevels world place.outline = parentLevels world place := by
  simp [parentLevels, Place.ancestors_outline, Function.comp_def, ← List.map_reverse]

theorem parentLevels_congr (h : Alike scan asks world other)
    (hignore : scan.respectGitignore = true) {place place' : Place}
    (hplace : place.outline = place'.outline) :
    parentLevels world place = parentLevels other place' := by
  rw [← parentLevels_outline world place, hplace, parentLevels_outline]
  have habsolute (found : Place) : Path.isAbsolute found.path = true := rfl
  unfold parentLevels
  rcases Place.outline_cases (h.resolve _ (h.absolute _ (habsolute place'))) with
    ⟨e, hworld, hother⟩ | ⟨found, found', hworld, hother, -⟩
  · rw [hworld, hother]
  · rw [hworld, hother]
    exact List.map_congr_left fun ancestor _ =>
      h.load_eq hignore (h.absolute _ (habsolute ancestor)) _

theorem items_congr (h : Alike scan asks world other) {root : OsText} (hroot : asks root)
    {place place' : Place} (hplace : place.outline = place'.outline) :
    items world scan root place = items other scan root place' := by
  have hnames := Place.names_congr hplace
  have hcount : dirCount world.tree.top = dirCount other.tree.top := by
    rw [← dirCount_outline, h.top, dirCount_outline]
  have hentries : Node.outlines place.node.entries = Node.outlines place'.node.entries := by
    have houtline (node : Node) : Node.outlines node.entries = node.outline.entries := by
      cases node <;> rfl
    rw [houtline, houtline, Place.node_congr hplace]
  have hparents : (if scan.respectGitignore then parentLevels world place else []) =
      if scan.respectGitignore then parentLevels other place' else [] := by
    by_cases hignore : scan.respectGitignore = true
    · rw [if_pos hignore, if_pos hignore, parentLevels_congr h hignore hplace]
    · rw [if_neg hignore, if_neg hignore]
  have hlevels (parents : List IgnoreLevel) :
      (if scan.respectGitignore then IgnoreLevel.load world root "" :: parents else []) =
        if scan.respectGitignore then IgnoreLevel.load other root "" :: parents else [] := by
    by_cases hignore : scan.respectGitignore = true
    · rw [if_pos hignore, if_pos hignore, h.load_eq hignore hroot]
    · rw [if_neg hignore, if_neg hignore]
  have huser : (if scan.respectGitignore then UserRules.load? world else none) =
      if scan.respectGitignore then UserRules.load? other else none := by
    by_cases hignore : scan.respectGitignore = true
    · rw [if_pos hignore, if_pos hignore, h.user hignore]
    · rw [if_neg hignore, if_neg hignore]
  unfold items
  dsimp only
  rw [hparents, hlevels, huser, hnames, hcount]
  refine congrArg _ (listItems_congr h (linkItems_congr h _) ?_ hroot _ hentries)
  exact congrArg (Position.mk · _ _ _ _) hplace

theorem rootPlace_congr (h : Alike scan asks world other) {root : OsText} (hroot : asks root) :
    (rootPlace world root).map Place.outline = (rootPlace other root).map Place.outline := by
  unfold rootPlace
  rcases Place.outline_cases (h.resolve root hroot) with
    ⟨e, hworld, hother⟩ | ⟨place, place', hworld, hother, hplace⟩
  · rw [hworld, hother]
  · have hnode := Place.node_congr hplace
    rw [hworld, hother]
    dsimp only
    cases hentries : place.node with
    | dir access entries =>
      cases hentries' : place'.node with
      | dir access' entries' =>
        obtain ⟨rfl, -⟩ : access = access' ∧ Node.outlines entries = Node.outlines entries' := by
          simpa only [hentries, hentries', Node.outline, Node.dir.injEq] using hnode
        dsimp only
        split
        · exact congrArg Except.ok hplace
        · rfl
      | file | socket | link => simp [hentries, hentries', Node.outline] at hnode
    | file | socket | link =>
      cases hentries' : place'.node with
      | dir access' entries' => simp [hentries, hentries', Node.outline] at hnode
      | file | socket | link => rfl

/-- File systems that are alike yield the same walks. -/
theorem walkFiles_congr (h : Alike scan asks world other) {root : OsText} (hroot : asks root)
    (pattern : String) : walkFiles world scan root pattern = walkFiles other scan root pattern := by
  have hfile (glob : Glob) : Item.file? world scan root glob = Item.file? other scan root glob := by
    funext item
    have hdir (relative : String) := h.isDir_eq (h.below root relative hroot)
    cases item with
    | problem text => rfl
    | entry path => simp only [Item.file?, isExcludedCandidate, hdir]
  cases hglob : compileGlob pattern with
  | error e =>
    unfold walkFiles
    simp only [hglob, bind, Except.bind]
  | ok glob =>
    rw [walkFiles_eq hglob, walkFiles_eq hglob]
    rcases Place.outline_cases (rootPlace_congr h hroot) with
      ⟨e, hworld, hother⟩ | ⟨place, place', hworld, hother, hplace⟩
    · rw [hworld, hother, Except.map, Except.map]
    · have hselected : selected world scan root glob place =
          selected other scan root glob place' := by
        unfold selected
        rw [items_congr h hroot hplace, hfile]
      rw [hworld, hother]
      exact congrArg Except.ok hselected

end Walk

end CodeSearch
