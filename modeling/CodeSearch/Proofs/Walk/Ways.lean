import CodeSearch.Proofs.Path
import CodeSearch.Proofs.Tree
import CodeSearch.Walk.Basic
import Mathlib.Data.List.Basic

/-!
# The ways of a walk

Whatever a walk shows, heeds and follows, an entry that it yields stands at the end of a way from the
root: one or more names of the file system, none of them that of the dependency directory.  It comes to
the entries in the order of their ways, and so to no path twice, also behind links.  `Yields` says this
of a part of a walk; `items_yields` has it for a whole one, and `exists_ways_of_walkFiles` for the files
that are selected from it.  Two ways can look the same where names are not UTF-8.
-/

namespace CodeSearch

namespace Walk

/-- The path of an entry; none for a problem. -/
def Item.path? : Item → Option OsText
  | .entry path => some path
  | .problem _ => none

/-- Ways to entries below a directory of a file system, in order. -/
structure AreWays (tree : Tree) (dependencyDir : OsText) (ways : List (List OsText)) : Prop where
  ne_nil : ∀ way ∈ ways, way ≠ []
  hasName : ∀ way ∈ ways, ∀ name ∈ way, tree.top.HasName name
  unpruned : ∀ way ∈ ways, dependencyDir ∉ way
  sorted : ways.Pairwise (· < ·)

theorem AreWays.isName {tree : Tree} {dependencyDir : OsText} {ways : List (List OsText)}
    (h : AreWays tree dependencyDir ways) {way : List OsText} (hway : way ∈ ways) :
    ∀ name ∈ way, IsName name :=
  fun name hname => tree.wellFormed.isName_of_hasName (h.hasName way hway name hname)

/-- The entries among some items stand at the ends of ways from `path`, in their order, and each way
starts with one of the names in `first`. -/
def Yields (tree : Tree) (dependencyDir path : OsText) (first : List OsText) (items : List Item) :
    Prop :=
  ∃ ways, AreWays tree dependencyDir ways ∧
    items.filterMap Item.path? = ways.map (Path.extend path) ∧
    ∀ name rest, name :: rest ∈ ways → name ∈ first

section Yields

variable {tree : Tree} {dependencyDir path name : OsText} {first others : List OsText}
  {items rest : List Item}

theorem yields_of_no_entry (h : items.filterMap Item.path? = []) :
    Yields tree dependencyDir path first items :=
  ⟨[], ⟨by simp, by simp, by simp, .nil⟩, by simpa using h, by simp⟩

theorem yields_entry (hname : tree.top.HasName name) (hne : name ≠ dependencyDir) :
    Yields tree dependencyDir path [name] [.entry (Path.join path name)] := by
  refine ⟨[[name]], ⟨by simp, ?_, ?_, List.pairwise_singleton _ _⟩, rfl, ?_⟩
  · simpa using hname
  · simpa using Ne.symm hne
  · simp

/-- What stands at the ends of ways from a directory stands at the ends of longer ways from the one
above. -/
theorem Yields.below (h : Yields tree dependencyDir (Path.join path name) first items)
    (hname : tree.top.HasName name) (hne : name ≠ dependencyDir) :
    Yields tree dependencyDir path [name] items := by
  obtain ⟨ways, hways, heq, -⟩ := h
  refine ⟨ways.map (name :: ·), ⟨?_, ?_, ?_, ?_⟩, ?_, ?_⟩
  · simp
  · intro way hway
    obtain ⟨below, hbelow, rfl⟩ := List.mem_map.1 hway
    intro other hother
    rcases List.mem_cons.1 hother with rfl | hother
    · exact hname
    · exact hways.hasName below hbelow other hother
  · intro way hway
    obtain ⟨below, hbelow, rfl⟩ := List.mem_map.1 hway
    rw [List.mem_cons, not_or]
    exact ⟨Ne.symm hne, hways.unpruned below hbelow⟩
  · rw [List.pairwise_map]
    exact hways.sorted.imp fun hlt => List.cons_lt_cons_iff.2 (.inr ⟨rfl, hlt⟩)
  · rw [heq, List.map_map]
    rfl
  · intro other below hmem
    obtain ⟨way, -, hcons⟩ := List.mem_map.1 hmem
    rw [List.cons.inj hcons |>.1]
    exact List.mem_singleton.2 rfl

/-- Ways that start with smaller names come first. -/
theorem Yields.append (h : Yields tree dependencyDir path first items)
    (hrest : Yields tree dependencyDir path others rest)
    (hlt : ∀ name ∈ first, ∀ other ∈ others, name < other) :
    Yields tree dependencyDir path (first ++ others) (items ++ rest) := by
  obtain ⟨ways, hways, heq, hfirst⟩ := h
  obtain ⟨ways', hways', heq', hothers⟩ := hrest
  refine ⟨ways ++ ways', ⟨?_, ?_, ?_, ?_⟩, ?_, ?_⟩
  · intro way hway
    exact (List.mem_append.1 hway).elim (hways.ne_nil way) (hways'.ne_nil way)
  · intro way hway
    exact (List.mem_append.1 hway).elim (hways.hasName way) (hways'.hasName way)
  · intro way hway
    exact (List.mem_append.1 hway).elim (hways.unpruned way) (hways'.unpruned way)
  · refine List.pairwise_append.2 ⟨hways.sorted, hways'.sorted, fun way hway way' hway' => ?_⟩
    -- two ways from different parts differ in their first names
    obtain ⟨name, below, rfl⟩ := List.exists_cons_of_ne_nil (hways.ne_nil way hway)
    obtain ⟨other, below', rfl⟩ := List.exists_cons_of_ne_nil (hways'.ne_nil way' hway')
    exact List.cons_lt_cons_iff.2
      (.inl (hlt name (hfirst _ _ hway) other (hothers _ _ hway')))
  · rw [List.filterMap_append, heq, heq', List.map_append]
  · intro name below hmem
    rw [List.mem_append]
    exact (List.mem_append.1 hmem).imp (hfirst name below) (hothers name below)

end Yields

/-! ## Every walk goes along ways -/

variable {world : World} {scan : ScanConfig}

/-- The dependency directory is left out, whatever ignore files say. -/
theorem ne_dependencyDir_of_leavesOut {position : Position} {name : OsText} {isDir : Bool}
    (h : ¬ position.leavesOut scan name isDir = true) : name ≠ scan.dependencyDir := by
  unfold Position.leavesOut at h
  rw [Bool.not_eq_true] at h
  exact beq_eq_false_iff_ne.1 (Bool.or_eq_false_iff.1 h).2

theorem item_yields {position : Position} {name : OsText} (hname : world.tree.top.HasName name) :
    Yields world.tree scan.dependencyDir position.path [name] (position.item scan name) := by
  unfold Position.item
  split
  · exact yields_of_no_entry rfl
  · rename_i hkept
    exact yields_entry hname (ne_dependencyDir_of_leavesOut hkept)

section Step

variable {onLink : Position → OsText → List Item}

mutual

theorem entryItems_yields (honLink : ∀ position name, world.tree.top.HasName name →
      Yields world.tree scan.dependencyDir position.path [name] (onLink position name))
    {position : Position} {name : OsText} (hname : world.tree.top.HasName name) :
    ∀ {node : Node}, node.WellFormed →
      (∀ other, node.HasName other → world.tree.top.HasName other) →
      Yields world.tree scan.dependencyDir position.path [name]
        (entryItems world scan onLink position name node)
  | .dir access entries, hnode, hnames => by
    rw [entryItems]
    split
    · exact yields_of_no_entry rfl
    · rename_i hkept
      split
      · exact yields_of_no_entry rfl
      · split
        · exact yields_of_no_entry rfl
        · exact (listItems_yields honLink hnode hnames).below hname
            (ne_dependencyDir_of_leavesOut hkept)
  | .link _, _, _ => honLink position name hname
  | .file _ _, _, _ | .socket _, _, _ => item_yields hname

/-- A walk of a directory goes along ways that start with the names of its entries. -/
theorem listItems_yields (honLink : ∀ position name, world.tree.top.HasName name →
      Yields world.tree scan.dependencyDir position.path [name] (onLink position name))
    {position : Position} {access : Access} : ∀ {entries : List (OsText × Node)},
    (Node.dir access entries).WellFormed →
      (∀ other, (Node.dir access entries).HasName other → world.tree.top.HasName other) →
      Yields world.tree scan.dependencyDir position.path (entries.map (·.1))
        (listItems world scan onLink position entries)
  | [], _, _ => yields_of_no_entry rfl
  | (name, node) :: rest, hdirectory, hhas => by
    have hmem : (name, node) ∈ (name, node) :: rest := List.mem_cons_self
    have hnode : Yields world.tree scan.dependencyDir position.path [name]
        (entryItems world scan onLink position name node) :=
      entryItems_yields honLink (hhas name (.entry hmem)) (hdirectory.child hmem)
        fun other hother => hhas other (.inside hmem hother)
    have hothers : Yields world.tree scan.dependencyDir position.path (rest.map (·.1))
        (listItems world scan onLink position rest) :=
      listItems_yields honLink hdirectory.rest
        fun other hother => hhas other (hother.of_rest (name, node))
    have hfirst : ∀ entry ∈ rest, name < entry.1 := by
      cases hdirectory with
      | dir hnames hsorted hchildren => exact (List.pairwise_cons.1 hsorted).1
    rw [listItems]
    refine hnode.append hothers fun first hmem other hother => ?_
    obtain rfl := List.mem_singleton.1 hmem
    obtain ⟨entry, hentry, rfl⟩ := List.mem_map.1 hother
    exact hfirst entry hentry

end

/-- A walk of the directory at a place goes along ways that start with the names of its entries. -/
theorem place_yields (honLink : ∀ position name, world.tree.top.HasName name →
      Yields world.tree scan.dependencyDir position.path [name] (onLink position name))
    (position : Position) {path : OsText} {place : Place} (hresolve : world.resolve path = .ok place) :
    Yields world.tree scan.dependencyDir position.path (place.node.entries.map (·.1))
      (listItems world scan onLink position place.node.entries) := by
  have hplace := World.wellFormed_of_resolve hresolve
  have hhas : ∀ name, place.node.HasName name → world.tree.top.HasName name :=
    fun name => World.hasName_of_resolve hresolve
  cases hnode : place.node with
  | dir access entries =>
    rw [hnode] at hplace hhas
    exact listItems_yields honLink hplace hhas
  | file | socket | link => exact yields_of_no_entry rfl

end Step

/-- Behind a link, ways go on in the directory that it points at. -/
theorem linkItems_yields {links : Nat} (position : Position) (name : OsText)
    (hname : world.tree.top.HasName name) :
    Yields world.tree scan.dependencyDir position.path [name]
      (linkItems world scan links position name) := by
  induction links generalizing position name with
  | zero => exact yields_of_no_entry rfl
  | succ links ih =>
    rw [linkItems]
    split
    · exact item_yields hname
    dsimp only
    split
    · exact yields_of_no_entry rfl
    rename_i place hresolve
    split
    · rename_i access entries hdir
      split
      · exact yields_of_no_entry rfl
      split
      · exact yields_of_no_entry rfl
      split
      · exact yields_of_no_entry rfl
      · rename_i hkept
        have hbelow := place_yields ih (position.enter world scan name place) hresolve
        rw [hdir] at hbelow
        exact hbelow.below hname (ne_dependencyDir_of_leavesOut hkept)
    · exact item_yields hname

/-- A walk goes along ways from its root. -/
theorem items_yields {root : OsText} {place : Place} (hresolve : world.resolve root = .ok place) :
    Yields world.tree scan.dependencyDir root (place.node.entries.map (·.1))
      (items world scan root place) := by
  have hfaults (faults : List String) :
      (if faults.isEmpty then [] else [Item.problem ("\n".intercalate faults)]).filterMap
        Item.path? = [] := by
    split <;> rfl
  unfold items
  obtain ⟨ways, hways, heq, hfirst⟩ := place_yields linkItems_yields _ hresolve
  refine ⟨ways, hways, ?_, hfirst⟩
  rw [List.filterMap_append, hfaults, List.nil_append]
  exact heq

/-! ## Selected files -/

/-- What is selected from the items of a walk. -/
def selected (world : World) (scan : ScanConfig) (root : OsText) (glob : Glob) (place : Place) :
    Walk :=
  let items := if isStandardInput root then [] else items world scan root place
  ⟨items.filterMap (Item.file? world scan root glob), items.filterMap Item.problem?⟩

theorem walkFiles_eq {pattern : String} {glob : Glob} (hglob : compileGlob pattern = .ok glob)
    (world : World) (scan : ScanConfig) (root : OsText) :
    walkFiles world scan root pattern =
      (rootPlace world root).map (selected world scan root glob) := by
  unfold walkFiles
  rw [hglob]
  cases rootPlace world root <;> rfl

/-- A root is a directory that can be listed. -/
theorem rootPlace_eq_ok_iff {root : OsText} {place : Place} :
    rootPlace world root = .ok place ↔
      world.resolve root = .ok place ∧
        ∃ access entries, place.node = .dir access entries ∧ access.lists = true := by
  unfold rootPlace
  cases world.resolve root with
  | error e => simp
  | ok found =>
    cases hnode : found.node with
    | dir access entries =>
      cases hlists : access.lists with
      | true =>
        simp only [hnode, hlists, if_true, Except.ok.injEq]
        constructor
        · rintro rfl
          exact ⟨rfl, access, entries, hnode, hlists⟩
        · exact fun h => h.1
      | false =>
        simp only [hnode, hlists, Bool.false_eq_true, if_false, reduceCtorEq, Except.ok.injEq, false_iff]
        rintro ⟨rfl, access', entries', hnode', hlists'⟩
        rw [hnode] at hnode'
        obtain ⟨rfl, -⟩ := Node.dir.inj hnode'
        rw [hlists] at hlists'
        cases hlists'
    | file | socket | link =>
      simp only [hnode, reduceCtorEq, Except.ok.injEq, false_iff]
      rintro ⟨rfl, access', entries', hnode', -⟩
      rw [hnode] at hnode'
      cases hnode'

/-- A walk is selected from the items below a directory that can be listed. -/
theorem exists_selected_of_walkFiles {root : OsText} {pattern : String} {walk : Walk}
    (h : walkFiles world scan root pattern = .ok walk) :
    ∃ glob place, compileGlob pattern = .ok glob ∧ rootPlace world root = .ok place ∧
      walk = selected world scan root glob place := by
  cases hglob : compileGlob pattern with
  | error e =>
    unfold walkFiles at h
    rw [hglob] at h
    cases h
  | ok glob =>
    rw [walkFiles_eq hglob] at h
    cases hplace : rootPlace world root with
    | error e =>
      rw [hplace] at h
      cases h
    | ok place =>
      rw [hplace] at h
      exact ⟨glob, place, rfl, rfl, (Except.ok.inj h).symm⟩

/-- The file at a path that a walk came to, if it is selected. -/
def fileAt? (world : World) (dependencyDir : String) (root : OsText) (glob : Glob) (path : OsText) :
    Option String :=
  (Path.relativePath root path).filter fun relative : String =>
    glob.accepts relative && !isExcludedCandidate world dependencyDir root relative

/-- The file at the end of a way is named by it. -/
theorem file?_eq (item : Item) (root : OsText) (glob : Glob) :
    item.file? world scan root glob =
      item.path?.bind (fileAt? world scan.dependencyDir root glob) := by
  cases item <;> rfl

/-- A way as it is shown: names with slashes between them, each as far as it can be decoded. -/
def shown (way : List OsText) : String := "/".intercalate (way.map OsText.lossy)

/-! ## The ways of a whole walk -/

/-- The paths of the entries among some items. -/
def entryPaths (items : List Item) : List OsText := items.filterMap Item.path?

/-- The paths of the entries that a walk of a root yields. -/
def walkPaths (world : World) (scan : ScanConfig) (root : OsText) (place : Place) : List OsText :=
  entryPaths (if isStandardInput root then [] else items world scan root place)

/-- The ways along which a walk of a root comes to its entries. -/
def walkWays (world : World) (scan : ScanConfig) (root : OsText) (place : Place) :
    List (List OsText) :=
  (walkPaths world scan root place).filterMap (Path.namesBelow? root)

/-- A way is read back from the path to which it leads. -/
theorem filterMap_namesBelow?_extend {tree : Tree} {dependencyDir : OsText} {ways : List (List OsText)}
    (hways : AreWays tree dependencyDir ways) (root : OsText) :
    (ways.map (Path.extend root)).filterMap (Path.namesBelow? root) = ways := by
  rw [List.filterMap_map]
  refine (List.filterMap_congr fun way hway => ?_).trans List.filterMap_some
  exact Path.namesBelow?_eq_some_iff.2 (Path.ofPath_extend (hways.isName hway) root)

section WalkWays

variable {root : OsText} {place : Place} (hresolve : world.resolve root = .ok place)
include hresolve

variable (scan) in
/-- Every entry of a walk stands at the end of a way from the root, in the order of the ways. -/
theorem areWays_walkWays :
    AreWays world.tree scan.dependencyDir (walkWays world scan root place) ∧
      walkPaths world scan root place = (walkWays world scan root place).map (Path.extend root) := by
  have hyields : Yields world.tree scan.dependencyDir root (place.node.entries.map (·.1))
      (if isStandardInput root then [] else items world scan root place) := by
    split
    · exact yields_of_no_entry rfl
    · exact items_yields hresolve
  obtain ⟨ways, hways, heq, -⟩ := hyields
  have hpaths : walkPaths world scan root place = ways.map (Path.extend root) := heq
  have hback : walkWays world scan root place = ways := by
    rw [walkWays, hpaths, filterMap_namesBelow?_extend hways]
  rw [hback]
  exact ⟨hways, hpaths⟩

end WalkWays

section Selecting

variable (world scan) (root : OsText) (place : Place)

theorem files_selected (glob : Glob) :
    (selected world scan root glob place).files =
      (walkPaths world scan root place).filterMap (fileAt? world scan.dependencyDir root glob) := by
  unfold selected walkPaths entryPaths
  rw [List.filterMap_filterMap]
  exact List.filterMap_congr fun item _ => file?_eq item root glob

/-- Whether the file at the end of a way is selected, which is a matter of how it is shown. -/
def isSelected (world : World) (dependencyDir : String) (root : OsText) (glob : Glob)
    (way : List OsText) : Bool :=
  glob.accepts (shown way) && !isExcludedCandidate world dependencyDir root (shown way)

variable {world scan root place}

/-- A file that is selected is shown as the way that the walk came to it. -/
theorem fileAt?_extend {way : List OsText} (hne : way ≠ []) (hway : ∀ name ∈ way, IsName name)
    (dependencyDir : String) (glob : Glob) :
    fileAt? world dependencyDir root glob (Path.extend root way) =
      if isSelected world dependencyDir root glob way then some (shown way) else none := by
  rw [fileAt?, Path.relativePath_extend hne hway]
  exact Option.filter_some

/-- The files that a walk selects are ways as they are shown. -/
theorem files_eq_map_shown (hresolve : world.resolve root = .ok place) (glob : Glob) :
    (selected world scan root glob place).files =
      ((walkWays world scan root place).filter
        (isSelected world scan.dependencyDir root glob)).map shown := by
  obtain ⟨hways, hpaths⟩ := areWays_walkWays scan hresolve
  rw [files_selected, hpaths, List.filterMap_map, ← List.filterMap_eq_map, List.filterMap_filter]
  exact List.filterMap_congr fun way hway =>
    fileAt?_extend (hways.ne_nil way hway) (hways.isName hway) _ glob

end Selecting

/-- Some of the ways are ways. -/
theorem AreWays.filter {tree : Tree} {dependencyDir : OsText} {ways : List (List OsText)}
    (h : AreWays tree dependencyDir ways) (keep : List OsText → Bool) :
    AreWays tree dependencyDir (ways.filter keep) where
  ne_nil way hway := h.ne_nil way (List.mem_filter.1 hway).1
  hasName way hway := h.hasName way (List.mem_filter.1 hway).1
  unpruned way hway := h.unpruned way (List.mem_filter.1 hway).1
  sorted := h.sorted.sublist List.filter_sublist

/-- The files that a walk selects are ways as they are shown, in the order of the ways. -/
theorem exists_ways_of_walkFiles {root : OsText} {pattern : String} {walk : Walk}
    (h : walkFiles world scan root pattern = .ok walk) :
    ∃ ways, AreWays world.tree scan.dependencyDir ways ∧ walk.files = ways.map shown := by
  obtain ⟨glob, place, -, hplace, rfl⟩ := exists_selected_of_walkFiles h
  have hresolve := (rootPlace_eq_ok_iff.1 hplace).1
  exact ⟨_, (areWays_walkWays scan hresolve).1.filter _, files_eq_map_shown hresolve glob⟩

section Shown

variable {way : List OsText} (hne : way ≠ []) (hnames : ∀ name ∈ way, IsName name)
include hne hnames

/-- Ways are shown name by name. -/
theorem textSegments_shown : Text.segments (shown way) = way.map OsText.lossy :=
  Path.segments_intercalate_names (by simpa using hne)
    (Path.forall_isSingleName_map fun name hname => (hnames name hname).isEntryName)

/-- Ways are shown without detours. -/
theorem isNormal_shown : Path.IsNormal (shown way) :=
  Path.isNormal_intercalate (by simpa using hne)
    (Path.forall_isSingleName_map fun name hname => (hnames name hname).isEntryName)

/-- Where the names of a way are UTF-8, they are what is shown. -/
theorem segments_shown (htext : ∀ name ∈ way, name.IsUtf8) : (shown way : OsText).segments = way := by
  rw [OsText.segments_ofText, textSegments_shown hne hnames, List.map_map]
  exact (List.map_congr_left fun name hname => htext name hname).trans (List.map_id way)

end Shown

/-- Ways of names in UTF-8 are shown in their order. -/
theorem pairwise_shown {ways : List (List OsText)}
    (hways : ∀ way ∈ ways, way ≠ [] ∧ ∀ name ∈ way, IsName name)
    (htext : ∀ way ∈ ways, ∀ name ∈ way, name.IsUtf8) (hsorted : ways.Pairwise (· < ·)) :
    (ways.map shown).Pairwise fun path other : String =>
      (path : OsText).segments < (other : OsText).segments := by
  have hsegments {way : List OsText} (hway : way ∈ ways) : (shown way : OsText).segments = way :=
    segments_shown (hways way hway).1 (hways way hway).2 (htext way hway)
  rw [List.pairwise_map]
  refine hsorted.imp_of_mem fun hway hother hlt => ?_
  rwa [hsegments hway, hsegments hother]

/-- Paths in strict order of their segments are distinct. -/
theorem nodup_of_pairwise_segments {files : List String}
    (h : files.Pairwise fun path other : String =>
      (path : OsText).segments < (other : OsText).segments) : files.Nodup := by
  refine h.imp ?_
  rintro path _ hlt rfl
  exact List.lt_irrefl _ hlt

/-- Where names are UTF-8, the files of a walk come in the order of the bytes of their segments. -/
theorem walkFiles_sorted (htext : ∀ name, world.tree.top.HasName name → name.IsUtf8) {root : OsText}
    {pattern : String} {walk : Walk} (h : walkFiles world scan root pattern = .ok walk) :
    walk.files.Pairwise fun path other : String =>
      (path : OsText).segments < (other : OsText).segments := by
  obtain ⟨ways, hways, heq⟩ := exists_ways_of_walkFiles h
  rw [heq]
  exact pairwise_shown (fun way hway => ⟨hways.ne_nil way hway, hways.isName hway⟩)
    (fun way hway name hname => htext name (hways.hasName way hway name hname)) hways.sorted

/-- Where names are UTF-8, a walk finds no file twice. -/
theorem walkFiles_nodup (htext : ∀ name, world.tree.top.HasName name → name.IsUtf8) {root : OsText}
    {pattern : String} {walk : Walk} (h : walkFiles world scan root pattern = .ok walk) :
    walk.files.Nodup :=
  nodup_of_pairwise_segments (walkFiles_sorted htext h)

end Walk

end CodeSearch
