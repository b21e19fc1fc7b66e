import CodeSearch.Proofs.Query.Basic
import CodeSearch.Proofs.Walk
import CodeSearch.Proofs.Walk.Paths

/-!
# The switches of a scan

Three switches say what a walk shows, heeds and follows.  None of them has a part in the others:

* hiding entries takes away exactly the files below or behind a name with a dot in front;
* heeding ignore files takes files away and adds none, if nothing is hidden;
* following links takes away the files that cannot be looked at, and no other ones.

The paths that walks come to are compared by a filter for the first switch (`listItems_withoutHidden`)
and by sublists for the other two (`listItems_sublist`); the files that are selected from them are then
compared in the same way.  A file that cannot be looked at may be shown like another one that can, where
names are not UTF-8; so what is said of the third switch is said of ways first.
-/

namespace CodeSearch

/-- Whether a name starts with a dot. -/
def isDotName (name : String) : Bool := name.toList.head? == some '.'

/-- Whether an entry is hidden by its name. -/
def isHidden (name : OsText) : Bool := name.bytes.head? == some dot

/-- A name shows a dot in front exactly if it has one. -/
theorem isDotName_lossy (name : OsText) : isDotName name.lossy = isHidden name := by
  rw [isDotName, isHidden, OsText.lossy, String.toList_ofList, Bool.eq_iff_iff, beq_iff_eq, beq_iff_eq]
  exact OsText.head?_decodeFrom_iff (c := '.') (by decide)

/-- Whether no segment of a path starts with a dot. -/
def isShown (path : String) : Bool := (Text.segments path).all fun segment => !isDotName segment

namespace Walk

/-! ## Hidden entries -/

/-- The same scan with hidden entries left out. -/
def withoutHidden (scan : ScanConfig) : ScanConfig := { scan with includeHidden := false }

/-- A scan that leaves out the dependency directory alone. -/
structure ShowsAll (scan : ScanConfig) : Prop where
  hidden : scan.includeHidden = true
  unfiltered : scan.respectGitignore = false

section Hiding

variable {world : World} {scan : ScanConfig} {root : OsText}

/-- Whether nothing on the way to a path from the root is hidden. -/
def isShownBelow (root path : OsText) : Bool := (Path.relativePath root path).all isShown

theorem isShown_shown {way : List OsText} (hne : way ≠ []) (hway : ∀ name ∈ way, IsName name) :
    isShown (shown way) = way.all fun name => !isHidden name := by
  rw [isShown, textSegments_shown hne hway, List.all_map]
  exact congrArg way.all (funext fun name => congrArg (!·) (isDotName_lossy name))

theorem isShownBelow_extend {way : List OsText} (hne : way ≠ []) (hway : ∀ name ∈ way, IsName name) :
    isShownBelow root (Path.extend root way) = way.all fun name => !isHidden name := by
  rw [isShownBelow, Path.relativePath_extend hne hway, Option.all_some]
  exact isShown_shown hne hway

/-- A position that a walk without ignore files reaches along names that are not hidden. -/
structure Position.IsShown (root : OsText) (position : Position) : Prop where
  bare : position.IsBare
  way : ∃ way, (∀ name ∈ way, IsName name ∧ isHidden name = false) ∧
    position.path = Path.extend root way

namespace Position.IsShown

variable {position : Position} {name : OsText}

theorem enter (h : position.IsShown root) (hscan : ShowsAll scan) (hname : IsName name)
    (hdot : isHidden name = false) (place : Place) :
    (position.enter world scan name place).IsShown root := by
  obtain ⟨above, habove, hpath⟩ := h.way
  refine ⟨⟨by simp [Position.enter, hscan.unfiltered], h.bare.user⟩, above ++ [name], ?_, ?_⟩
  · intro other hother
    rcases List.mem_append.1 hother with hother | hother
    · exact habove other hother
    · obtain rfl := List.mem_singleton.1 hother
      exact ⟨hname, hdot⟩
  · rw [Path.extend_append, ← hpath]
    rfl

/-- What lies along a way from such a position is shown unless a name on the way hides it. -/
theorem isShownBelow_extend (h : position.IsShown root) {way : List OsText} (hne : way ≠ [])
    (hway : ∀ name ∈ way, IsName name) :
    isShownBelow root (Path.extend position.path way) = way.all fun name => !isHidden name := by
  obtain ⟨above, habove, hpath⟩ := h.way
  have hall : ∀ name ∈ above ++ way, IsName name := fun name hname =>
    (List.mem_append.1 hname).elim (fun hmem => (habove name hmem).1) (hway name)
  have hshown : (above.all fun name => !isHidden name) = true := by
    simpa using fun name hname => (habove name hname).2
  rw [hpath, ← Path.extend_append, Walk.isShownBelow_extend (by simp [hne]) hall, List.all_append,
    hshown, Bool.true_and]

/-- Nothing at or below a hidden name is shown. -/
theorem filter_eq_nil (h : position.IsShown root) (hdot : isHidden name = true) {tree : Tree}
    {dependencyDir : OsText} {items : List Item}
    (hyields : Yields tree dependencyDir position.path [name] items) :
    (entryPaths items).filter (isShownBelow root) = [] := by
  obtain ⟨ways, hways, heq, hfirst⟩ := hyields
  rw [entryPaths, heq, List.filter_eq_nil_iff]
  intro path hmem
  obtain ⟨way, hway, rfl⟩ := List.mem_map.1 hmem
  obtain ⟨first, rest, rfl⟩ := List.exists_cons_of_ne_nil (hways.ne_nil way hway)
  obtain rfl := List.mem_singleton.1 (hfirst first rest hway)
  rw [h.isShownBelow_extend (List.cons_ne_nil _ _) (hways.isName hway)]
  simp [hdot]

end Position.IsShown

/-- Hiding leaves out the entries with a dot in front besides those that are left out anyway. -/
theorem leavesOut_withoutHidden (hscan : ShowsAll scan) {position : Position}
    (hbare : position.IsBare) (name : OsText) (isDir : Bool) :
    position.leavesOut (withoutHidden scan) name isDir =
      (isHidden name || position.leavesOut scan name isDir) := by
  unfold Position.leavesOut Position.verdict?
  rw [hbare.levels, hbare.user, hscan.hidden]
  rfl

theorem item_withoutHidden (hscan : ShowsAll scan) {position : Position}
    (hposition : position.IsShown root) {name : OsText} (hname : world.tree.top.HasName name) :
    entryPaths (position.item (withoutHidden scan) name) =
      (entryPaths (position.item scan name)).filter (isShownBelow root) := by
  cases hdot : isHidden name with
  | true =>
    rw [hposition.filter_eq_nil hdot (item_yields hname), Position.item,
      leavesOut_withoutHidden hscan hposition.bare, hdot]
    rfl
  | false =>
    have hshown := hposition.isShownBelow_extend (List.cons_ne_nil name [])
      (by simpa using world.tree.wellFormed.isName_of_hasName hname)
    rw [Path.extend_cons, Path.extend_nil] at hshown
    unfold Position.item
    rw [leavesOut_withoutHidden hscan hposition.bare, hdot, Bool.false_or]
    split
    · rfl
    · simp [hshown, hdot]

section Step

variable {onLink onLink' : Position → OsText → List Item}

mutual

theorem entryItems_withoutHidden (hscan : ShowsAll scan)
    (hyields : ∀ position name, world.tree.top.HasName name →
      Yields world.tree scan.dependencyDir position.path [name] (onLink position name))
    (honLink : ∀ position name, position.IsShown root → world.tree.top.HasName name →
      entryPaths (onLink' position name) =
        (entryPaths (onLink position name)).filter (isShownBelow root))
    {position : Position} (hposition : position.IsShown root) {name : OsText}
    (hname : world.tree.top.HasName name) : ∀ {node : Node}, node.WellFormed →
    (∀ other, node.HasName other → world.tree.top.HasName other) →
    entryPaths (entryItems world (withoutHidden scan) onLink' position name node) =
      (entryPaths (entryItems world scan onLink position name node)).filter (isShownBelow root)
  | .dir access entries, hnode, hnames => by
    cases hdot : isHidden name with
    | true =>
      rw [hposition.filter_eq_nil hdot (entryItems_yields hyields hname hnode hnames), entryItems,
        leavesOut_withoutHidden hscan hposition.bare, hdot]
      rfl
    | false =>
      have hisName := world.tree.wellFormed.isName_of_hasName hname
      rw [entryItems, entryItems, leavesOut_withoutHidden hscan hposition.bare, hdot, Bool.false_or]
      split
      · rfl
      · split
        · rfl
        · split
          · rfl
          · exact listItems_withoutHidden hscan hyields honLink (hposition.enter hscan hisName hdot _)
              hnode hnames
  | .link _, _, _ => honLink position name hposition hname
  | .file _ _, _, _ | .socket _, _, _ => item_withoutHidden hscan hposition hname

/-- Without hidden entries, a walk comes to the entries that are shown. -/
theorem listItems_withoutHidden (hscan : ShowsAll scan)
    (hyields : ∀ position name, world.tree.top.HasName name →
      Yields world.tree scan.dependencyDir position.path [name] (onLink position name))
    (honLink : ∀ position name, position.IsShown root → world.tree.top.HasName name →
      entryPaths (onLink' position name) =
        (entryPaths (onLink position name)).filter (isShownBelow root))
    {position : Position} (hposition : position.IsShown root) {access : Access} :
    ∀ {entries : List (OsText × Node)}, (Node.dir access entries).WellFormed →
    (∀ other, (Node.dir access entries).HasName other → world.tree.top.HasName other) →
    entryPaths (listItems world (withoutHidden scan) onLink' position entries) =
      (entryPaths (listItems world scan onLink position entries)).filter (isShownBelow root)
  | [], _, _ => rfl
  | (name, node) :: rest, hdirectory, hhas => by
    have hmem : (name, node) ∈ (name, node) :: rest := List.mem_cons_self
    have hnode := entryItems_withoutHidden hscan hyields honLink hposition (hhas name (.entry hmem))
      (hdirectory.child hmem) fun other hother => hhas other (.inside hmem hother)
    have hrest := listItems_withoutHidden hscan hyields honLink hposition hdirectory.rest
      fun other hother => hhas other (hother.of_rest (name, node))
    rw [listItems, listItems, entryPaths_append, entryPaths_append, List.filter_append, hnode, hrest]

end

end Step

end Hiding

/-! ## Ignored entries and links -/

/-- The same position without any ignore files. -/
def Position.unfiltered (position : Position) : Position :=
  { position with levels := [], user := none }

/-- A position that a scan can reach: no rules count in it if the scan heeds none. -/
def Position.Heeds (scan : ScanConfig) (position : Position) : Prop :=
  scan.respectGitignore = false → position.IsBare

/-- Another scan heeds no ignore files, and apart from them leaves out what the first one does. -/
structure Loosens (scan other : ScanConfig) : Prop where
  hidden : other.includeHidden = scan.includeHidden
  dependencyDir : other.dependencyDir = scan.dependencyDir
  unfiltered : other.respectGitignore = false
  decides : scan.includeHidden = true ∨ scan.respectGitignore = false

section Loosening

variable {world : World} {scan other : ScanConfig} {root : OsText} {position : Position}

namespace Loosens

variable (h : Loosens scan other)
include h

theorem leavesOut_eq_false (hposition : position.Heeds scan) {name : OsText} {isDir : Bool}
    (hkept : position.leavesOut scan name isDir = false) :
    position.unfiltered.leavesOut other name isDir = false := by
  have hname := ne_dependencyDir_of_leavesOut (by simp [hkept] : ¬ position.leavesOut scan name isDir)
  rw [← h.dependencyDir] at hname
  have hdot : (!scan.includeHidden && isHidden name) = false := by
    rcases h.decides with hhidden | hscan
    · rw [hhidden]
      rfl
    · have hbare := hposition hscan
      rw [Position.leavesOut, Position.verdict?, hbare.levels, hbare.user] at hkept
      exact (Bool.or_eq_false_iff.1 hkept).1
  refine Bool.or_eq_false_iff.2 ⟨?_, by simpa using hname⟩
  show (!other.includeHidden && isHidden name) = false
  rw [h.hidden, hdot]

theorem unfiltered_enter (name : OsText) (place : Place) :
    (position.enter world scan name place).unfiltered =
      position.unfiltered.enter world other name place := by
  unfold Position.enter Position.unfiltered
  rw [h.unfiltered]
  rfl

end Loosens

theorem Position.Heeds.enter (h : position.Heeds scan) (name : OsText) (place : Place) :
    (position.enter world scan name place).Heeds scan :=
  fun hscan => ⟨by simp [Position.enter, hscan], (h hscan).user⟩

variable {keep : OsText → Bool}

theorem item_sublist (h : Loosens scan other) (hposition : position.Heeds scan) (name : OsText) :
    ((entryPaths (position.item scan name)).filter keep).Sublist
      (entryPaths (position.unfiltered.item other name)) := by
  cases hleft : position.leavesOut scan name false with
  | true => simp [Position.item, hleft]
  | false =>
    rw [Position.item, Position.item, hleft, h.leavesOut_eq_false hposition hleft]
    exact List.filter_sublist

section Step

variable {onLink onLink' : Position → OsText → List Item}

mutual

theorem entryItems_sublist (h : Loosens scan other)
    (honLink : ∀ position name, position.Heeds scan →
      ((entryPaths (onLink position name)).filter keep).Sublist
        (entryPaths (onLink' position.unfiltered name)))
    {position : Position} (hposition : position.Heeds scan) (name : OsText) : ∀ node : Node,
    ((entryPaths (entryItems world scan onLink position name node)).filter keep).Sublist
      (entryPaths (entryItems world other onLink' position.unfiltered name node))
  | .dir access entries => by
    cases hleft : position.leavesOut scan name true with
    | true => simp [entryItems, hleft]
    | false =>
      rw [entryItems, entryItems, hleft, h.leavesOut_eq_false hposition hleft,
        if_neg Bool.false_ne_true, if_neg Bool.false_ne_true, ← h.unfiltered_enter]
      -- the same directories are refused to both walks
      by_cases hlong : pathLimit ≤ (Path.join position.path name).size
      · simp [hlong]
      · have hlong' : ¬ pathLimit ≤ (Path.join position.unfiltered.path name).size := hlong
        rw [if_neg hlong, if_neg hlong']
        show (List.filter keep (entryPaths (if _ then _ else _))).Sublist
          (entryPaths (if (!(position.place.node.access.searched && access.lists)) = true then _ else _))
        split
        · simp
        · exact listItems_sublist h honLink (hposition.enter name _) entries
  | .link _ => honLink position name hposition
  | .file _ _ | .socket _ => item_sublist h hposition name

/-- A walk that leaves out less comes to the same entries, and perhaps to others between them, if
this is so for links. -/
theorem listItems_sublist (h : Loosens scan other)
    (honLink : ∀ position name, position.Heeds scan →
      ((entryPaths (onLink position name)).filter keep).Sublist
        (entryPaths (onLink' position.unfiltered name)))
    {position : Position} (hposition : position.Heeds scan) : ∀ entries : List (OsText × Node),
    ((entryPaths (listItems world scan onLink position entries)).filter keep).Sublist
      (entryPaths (listItems world other onLink' position.unfiltered entries))
  | [] => .slnil
  | (name, node) :: rest => by
    rw [listItems, listItems, entryPaths_append, entryPaths_append, List.filter_append]
    exact (entryItems_sublist h honLink hposition name node).append
      (listItems_sublist h honLink hposition rest)

end

end Step

end Loosening

/-! ## Followed links -/

section Following

variable {world : World} {scan other : ScanConfig} {root : OsText}

end Following

/-! ## Whole walks -/

end Walk

end CodeSearch
