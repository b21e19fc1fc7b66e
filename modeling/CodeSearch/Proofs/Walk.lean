import CodeSearch.Proofs.Path
import CodeSearch.Walk.Basic

/-!
# Where a plain walk stops

A plain walk shows hidden entries, heeds no ignore files and follows no links.  It stops at every
entry that is no directory, which it yields, and before every directory that cannot be opened, which is
a problem.  `listStops` lists these stops by the names that lead to them, and `listItems_eq` says that a
plain walk is this list.

What the list holds is said by `LeadsTo`, which goes through a tree name by name (`mem_listStops_iff`),
and the order in which it holds it is that of the names (`listStops_sorted`).
-/

namespace CodeSearch

theorem Node.isDir_eq_true_iff {node : Node} :
    node.isDir = true ↔ ∃ access entries, node = .dir access entries := by
  cases node <;> simp [Node.isDir]

/-- A directory at a path can be opened: the path is not too long, the directory that it is in can be
searched, and it can be listed itself. -/
structure Opens (above access : Access) (path : OsText) : Prop where
  short : path.size < pathLimit
  searched : above.searched = true
  lists : access.lists = true

instance (above access : Access) (path : OsText) : Decidable (Opens above access path) :=
  decidable_of_iff (path.size < pathLimit ∧ above.searched = true ∧ access.lists = true)
    ⟨fun ⟨a, b, c⟩ => ⟨a, b, c⟩, fun ⟨a, b, c⟩ => ⟨a, b, c⟩⟩

/-- `LeadsTo path directory names above target`: below the directory at `path`, names lead to `target`,
which is in a directory with the rights `above`, and the directories on the way can be opened. -/
inductive LeadsTo : (path : OsText) → Node → (names : List OsText) → (above : Access) → Node → Prop where
  | entry {path name : OsText} {access : Access} {entries : List (OsText × Node)} {target : Node}
      (mem : (name, target) ∈ entries) : LeadsTo path (.dir access entries) [name] access target
  | into {path name : OsText} {access inner above : Access} {entries children : List (OsText × Node)}
      {rest : List OsText} {target : Node} (mem : (name, .dir inner children) ∈ entries)
      (opens : Opens access inner (Path.join path name))
      (leads : LeadsTo (Path.join path name) (.dir inner children) rest above target) :
      LeadsTo path (.dir access entries) (name :: rest) above target

section LeadsTo

variable {path name : OsText} {access above : Access} {entries : List (OsText × Node)}
  {names rest : List OsText} {node target : Node}

theorem LeadsTo.ne_nil (h : LeadsTo path node names above target) : names ≠ [] := by
  cases h <;> simp

theorem leadsTo_cons_iff :
    LeadsTo path (.dir access entries) (name :: rest) above target ↔
      ∃ child, (name, child) ∈ entries ∧
        (rest = [] ∧ above = access ∧ target = child ∨
          ∃ inner children, child = .dir inner children ∧ Opens access inner (Path.join path name) ∧
            LeadsTo (Path.join path name) child rest above target) := by
  constructor
  · rintro (⟨mem⟩ | ⟨mem, opens, leads⟩)
    · exact ⟨_, mem, .inl ⟨rfl, rfl, rfl⟩⟩
    · exact ⟨_, mem, .inr ⟨_, _, rfl, opens, leads⟩⟩
  · rintro ⟨child, mem, ⟨rfl, rfl, rfl⟩ | ⟨inner, children, rfl, opens, leads⟩⟩
    · exact .entry mem
    · exact .into mem opens leads

/-- All names in a well-formed tree are admissible. -/
theorem LeadsTo.isName (h : LeadsTo path node names above target) (hnode : node.WellFormed) :
    ∀ name ∈ names, IsName name := by
  induction h with
  | entry mem =>
    cases hnode with
    | dir hnames hsorted hchildren => simpa using hnames _ mem
  | into mem opens leads ih =>
    cases hnode with
    | dir hnames hsorted hchildren =>
      exact List.forall_mem_cons.2 ⟨hnames _ mem, ih (hchildren _ mem)⟩

end LeadsTo

namespace Walk

/-- A scan that shows hidden entries, heeds no ignore files and follows no links. -/
structure IsPlain (scan : ScanConfig) : Prop where
  hidden : scan.includeHidden = true
  unfiltered : scan.respectGitignore = false
  unfollowed : scan.followLinks = false

/-- Where a plain walk stops. -/
structure Stop where
  /-- The names that lead there from the directory in which the walk started. -/
  names : List OsText
  /-- There is an entry that is no directory, rather than a directory that cannot be opened. -/
  isEntry : Bool
  deriving DecidableEq

namespace Stop

/-- The same stop as seen from the directory above. -/
def below (name : OsText) (stop : Stop) : Stop := { stop with names := name :: stop.names }

/-- Why a directory at a path is not opened. -/
def refusal (path : OsText) : OsError :=
  if pathLimit ≤ path.size then .nameTooLong else .permissionDenied

/-- What the walk yields there. -/
def item (root : OsText) (stop : Stop) : Item :=
  if stop.isEntry then .entry (Path.extend root stop.names)
  else .refused (Path.extend root stop.names) (refusal (Path.extend root stop.names))

/-- Whether a walk stops at a node in a directory with the rights `above`, and at what. -/
def at? (above : Access) (path : OsText) : Node → Option Bool
  | .dir access _ => if Opens above access path then none else some false
  | _ => some true

theorem at?_eq_some_true_iff {above : Access} {path : OsText} {node : Node} :
    at? above path node = some true ↔ node.isDir = false := by
  cases node with
  | dir access entries => simp [at?, Node.isDir]
  | file | socket | link => simp [at?, Node.isDir]

theorem at?_eq_some_false_iff {above : Access} {path : OsText} {node : Node} :
    at? above path node = some false ↔
      ∃ access entries, node = .dir access entries ∧ ¬ Opens above access path := by
  cases node with
  | dir access entries => simp [at?]
  | file | socket | link => simp [at?]

end Stop

mutual

/-- The stops at and below an entry of the directory at `path` with the rights `above`. -/
def nodeStops (dependencyDir : OsText) (above : Access) (path name : OsText) : Node → List Stop
  | .dir access entries =>
    if name = dependencyDir then []
    else if Opens above access (Path.join path name) then
      (listStops dependencyDir access (Path.join path name) entries).map (Stop.below name)
    else [⟨[name], false⟩]
  | _ => if name = dependencyDir then [] else [⟨[name], true⟩]

/-- The stops at and below some entries of the directory at `path` with the rights `above`. -/
def listStops (dependencyDir : OsText) (above : Access) (path : OsText) :
    List (OsText × Node) → List Stop
  | [] => []
  | (name, node) :: rest =>
    nodeStops dependencyDir above path name node ++ listStops dependencyDir above path rest

end

/-! ## A plain walk yields its stops -/

variable {world : World} {scan : ScanConfig}

/-- No rules count in a position. -/
structure Position.IsBare (position : Position) : Prop where
  levels : position.levels = []
  user : position.user = none

/-- A plain walk leaves out the dependency directory alone. -/
theorem leavesOut_of_isPlain (h : IsPlain scan) {position : Position} (hbare : position.IsBare)
    (name : OsText) (isDir : Bool) :
    position.leavesOut scan name isDir = (name == (scan.dependencyDir : OsText)) := by
  unfold Position.leavesOut Position.verdict?
  rw [hbare.levels, hbare.user, h.hidden]
  rfl

theorem item_of_isPlain (h : IsPlain scan) {position : Position} (hbare : position.IsBare)
    (name : OsText) :
    position.item scan name =
      (if name = scan.dependencyDir then [] else [⟨[name], true⟩]).map
        (Stop.item position.path) := by
  unfold Position.item
  rw [leavesOut_of_isPlain h hbare]
  by_cases hname : name = scan.dependencyDir
  · simp [hname]
  · simp [hname, Stop.item]

theorem isBare_enter (h : IsPlain scan) {position : Position} (hbare : position.IsBare) (name : OsText)
    (place : Place) : (position.enter world scan name place).IsBare where
  levels := by simp [Position.enter, h.unfiltered]
  user := hbare.user

theorem linkItems_of_isPlain (h : IsPlain scan) (links : Nat) (position : Position)
    (name : OsText) : linkItems world scan (links + 1) position name = position.item scan name := by
  simp [linkItems, h.unfollowed]

/-- A directory that is not the dependency directory is opened, or it is refused. -/
theorem entryItems_dir_of_isPlain (h : IsPlain scan) {position : Position} (hbare : position.IsBare)
    {name : OsText} (hname : name ≠ scan.dependencyDir) (onLink : Position → OsText → List Item)
    (access : Access) (entries : List (OsText × Node)) :
    entryItems world scan onLink position name (.dir access entries) =
      if Opens position.place.node.access access (Path.join position.path name) then
        listItems world scan onLink
          (position.enter world scan name (position.place.child name (.dir access entries))) entries
      else [Stop.item position.path ⟨[name], false⟩] := by
  rw [entryItems, leavesOut_of_isPlain h hbare, if_neg (by simpa using hname)]
  by_cases hlong : pathLimit ≤ (Path.join position.path name).size
  · have hclosed : ¬ Opens position.place.node.access access (Path.join position.path name) :=
      fun hopens => Nat.not_lt.2 hlong hopens.short
    rw [if_pos hlong, if_neg hclosed]
    simp [Stop.item, Stop.refusal, hlong]
  · have hopens : Opens position.place.node.access access (Path.join position.path name) ↔
        (position.place.node.access.searched && access.lists) = true := by
      rw [Bool.and_eq_true]
      exact ⟨fun ⟨_, hsearched, hlists⟩ => ⟨hsearched, hlists⟩,
        fun ⟨hsearched, hlists⟩ => ⟨Nat.not_le.1 hlong, hsearched, hlists⟩⟩
    rw [if_neg hlong]
    cases hrights : position.place.node.access.searched && access.lists with
    | true => rw [if_pos (hopens.2 hrights), Bool.not_true, if_neg Bool.false_ne_true]
    | false =>
      rw [if_neg (fun h => Bool.false_ne_true (hrights.symm.trans (hopens.1 h))), Bool.not_false,
        if_pos rfl]
      simp [Stop.item, Stop.refusal, hlong]

mutual

theorem entryItems_eq (h : IsPlain scan) (links : Nat) {position : Position}
    (hbare : position.IsBare) (name : OsText) : ∀ node : Node,
    entryItems world scan (linkItems world scan (links + 1)) position name node =
      (nodeStops scan.dependencyDir position.place.node.access position.path name node).map
        (Stop.item position.path)
  | .dir access entries => by
    rw [nodeStops]
    by_cases hname : name = scan.dependencyDir
    · rw [entryItems, leavesOut_of_isPlain h hbare, if_pos (by simpa using hname), if_pos hname]
      rfl
    · rw [entryItems_dir_of_isPlain h hbare hname, if_neg hname]
      split
      · -- no ignore file is read on the way down, so the position stays bare
        rw [listItems_eq h links (isBare_enter h hbare name _) entries, List.map_map]
        rfl
      · rfl
  | .link _ => (linkItems_of_isPlain h links position name).trans (item_of_isPlain h hbare name)
  | .file _ _ | .socket _ => item_of_isPlain h hbare name

theorem listItems_eq (h : IsPlain scan) (links : Nat) {position : Position}
    (hbare : position.IsBare) : ∀ entries : List (OsText × Node),
    listItems world scan (linkItems world scan (links + 1)) position entries =
      (listStops scan.dependencyDir position.place.node.access position.path entries).map
        (Stop.item position.path)
  | [] => rfl
  | (name, node) :: rest => by
    rw [listItems, listStops, entryItems_eq h links hbare name node,
      listItems_eq h links hbare rest, List.map_append]

end

/-! ## Which stops there are -/

variable {dependencyDir path name : OsText} {above : Access} {rest names : List OsText}
  {isEntry : Bool} {entries : List (OsText × Node)}

theorem nodeStops_of_entry {node : Node} (h : node.isDir = false) :
    nodeStops dependencyDir above path name node =
      if name = dependencyDir then [] else [⟨[name], true⟩] := by
  cases node with
  | dir access entries => exact absurd h (by simp [Node.isDir])
  | file | socket | link => rfl

/-- The stops at and below an entry start with its name. -/
theorem exists_names_of_mem_nodeStops {node : Node} {stop : Stop}
    (h : stop ∈ nodeStops dependencyDir above path name node) : ∃ rest, stop.names = name :: rest := by
  cases hdir : node.isDir with
  | false =>
    rw [nodeStops_of_entry hdir] at h
    by_cases hname : name = dependencyDir
    · simp [hname] at h
    · simp only [hname, if_false, List.mem_singleton] at h
      exact ⟨[], by rw [h]⟩
  | true =>
    obtain ⟨access, entries, rfl⟩ := Node.isDir_eq_true_iff.1 hdir
    rw [nodeStops] at h
    split at h
    · simp at h
    · split at h
      · obtain ⟨stop, -, rfl⟩ := List.mem_map.1 h
        exact ⟨stop.names, rfl⟩
      · exact ⟨[], by rw [List.mem_singleton.1 h]⟩

theorem mem_listStops {stop : Stop} :
    stop ∈ listStops dependencyDir above path entries ↔
      ∃ entry ∈ entries, stop ∈ nodeStops dependencyDir above path entry.1 entry.2 := by
  induction entries with
  | nil => simp [listStops]
  | cons entry rest ih =>
    rw [listStops, List.mem_append, ih]
    simp

theorem names_ne_nil_of_mem_listStops {stop : Stop}
    (h : stop ∈ listStops dependencyDir above path entries) : stop.names ≠ [] := by
  obtain ⟨entry, -, hstop⟩ := mem_listStops.1 h
  obtain ⟨rest, hnames⟩ := exists_names_of_mem_nodeStops hstop
  simp [hnames]

/-- A stop in a directory lies at or below the entry that its first name names. -/
theorem mem_listStops_cons_iff :
    ⟨name :: rest, isEntry⟩ ∈ listStops dependencyDir above path entries ↔
      ∃ node, (name, node) ∈ entries ∧
        ⟨name :: rest, isEntry⟩ ∈ nodeStops dependencyDir above path name node := by
  rw [mem_listStops]
  constructor
  · rintro ⟨⟨other, node⟩, hentry, hstop⟩
    obtain ⟨rest', hnames⟩ := exists_names_of_mem_nodeStops hstop
    obtain ⟨rfl, -⟩ := List.cons.inj hnames
    exact ⟨node, hentry, hstop⟩
  · rintro ⟨node, hentry, hstop⟩
    exact ⟨(name, node), hentry, hstop⟩

/-- A walk stops at an entry, or it opens it and stops below. -/
theorem mem_nodeStops_iff {node : Node} :
    ⟨name :: rest, isEntry⟩ ∈ nodeStops dependencyDir above path name node ↔
      name ≠ dependencyDir ∧
        (rest = [] ∧ Stop.at? above (Path.join path name) node = some isEntry ∨
          ∃ access entries, node = .dir access entries ∧ Opens above access (Path.join path name) ∧
            ⟨rest, isEntry⟩ ∈ listStops dependencyDir access (Path.join path name) entries) := by
  cases hdir : node.isDir with
  | false =>
    have hnot : ¬ ∃ access entries, node = .dir access entries := by
      rw [← Node.isDir_eq_true_iff, hdir]
      exact Bool.false_ne_true
    rw [nodeStops_of_entry hdir, Stop.at?_eq_some_true_iff.2 hdir]
    by_cases hname : name = dependencyDir
    · simp [hname]
    · simp only [hname, if_false, List.mem_singleton, Stop.mk.injEq, List.cons.injEq, true_and, ne_eq,
        not_false_eq_true, Option.some.injEq]
      constructor
      · exact fun ⟨hrest, hentry⟩ => .inl ⟨hrest, hentry.symm⟩
      · rintro (⟨hrest, hentry⟩ | ⟨access, entries, hnode, -⟩)
        · exact ⟨hrest, hentry.symm⟩
        · exact absurd ⟨access, entries, hnode⟩ hnot
  | true =>
    obtain ⟨access, entries, rfl⟩ := Node.isDir_eq_true_iff.1 hdir
    rw [nodeStops, Stop.at?]
    by_cases hname : name = dependencyDir
    · simp [hname]
    by_cases hopens : Opens above access (Path.join path name)
    · rw [if_neg hname, if_pos hopens, if_pos hopens, List.mem_map]
      constructor
      · rintro ⟨stop, hstop, heq⟩
        obtain ⟨hrest, rfl⟩ := Stop.mk.inj heq
        obtain ⟨-, rfl⟩ := List.cons.inj hrest
        exact ⟨hname, .inr ⟨access, entries, rfl, hopens, hstop⟩⟩
      · rintro ⟨-, ⟨-, hstop⟩ | ⟨access', entries', hnode, -, hstop⟩⟩
        · cases hstop
        · obtain ⟨rfl, rfl⟩ := Node.dir.inj hnode
          exact ⟨_, hstop, rfl⟩
    · rw [if_neg hname, if_neg hopens, if_neg hopens, List.mem_singleton]
      constructor
      · intro heq
        obtain ⟨hnames, rfl⟩ := Stop.mk.inj heq
        exact ⟨hname, .inl ⟨(List.cons.inj hnames).2, rfl⟩⟩
      · rintro ⟨-, ⟨rfl, hstop⟩ | ⟨access', entries', hnode, hopens', -⟩⟩
        · rw [Option.some.inj hstop]
        · obtain ⟨rfl, rfl⟩ := Node.dir.inj hnode
          exact absurd hopens' hopens

/-- A walk stops exactly where it is stopped at the end of names that lead through directories that can
be opened. -/
theorem mem_listStops_iff :
    ⟨names, isEntry⟩ ∈ listStops dependencyDir above path entries ↔
      dependencyDir ∉ names ∧ ∃ last target, LeadsTo path (.dir above entries) names last target ∧
        Stop.at? last (Path.extend path names) target = some isEntry := by
  induction names generalizing above path entries with
  | nil =>
    refine iff_of_false (fun h => names_ne_nil_of_mem_listStops h rfl) ?_
    rintro ⟨-, last, target, leads, -⟩
    exact leads.ne_nil rfl
  | cons name rest ih =>
    -- the walk stops at the entry that the first name names, or the other names lead on below it
    rw [mem_listStops_cons_iff, List.mem_cons, not_or]
    simp only [mem_nodeStops_iff, leadsTo_cons_iff]
    constructor
    · rintro ⟨node, hmem, hname, ⟨rfl, hstop⟩ | ⟨access, children, rfl, hopens, hstop⟩⟩
      · exact ⟨⟨Ne.symm hname, List.not_mem_nil⟩, above, node, ⟨node, hmem, .inl ⟨rfl, rfl, rfl⟩⟩, hstop⟩
      · obtain ⟨hdep, last, target, leads, hstop⟩ := ih.1 hstop
        exact ⟨⟨Ne.symm hname, hdep⟩, last, target,
          ⟨_, hmem, .inr ⟨access, children, rfl, hopens, leads⟩⟩, hstop⟩
    · rintro ⟨⟨hname, hdep⟩, last, target, ⟨node, hmem, hnode⟩, hstop⟩
      refine ⟨node, hmem, Ne.symm hname, ?_⟩
      rcases hnode with ⟨rfl, rfl, rfl⟩ | ⟨access, children, rfl, hopens, leads⟩
      · exact .inl ⟨rfl, hstop⟩
      · exact .inr ⟨access, children, rfl, hopens, ih.2 ⟨hdep, last, target, leads, hstop⟩⟩

/-- A walk is refused nothing exactly if all directories that it reaches can be opened. -/
theorem all_isEntry_iff :
    (∀ stop ∈ listStops dependencyDir above path entries, stop.isEntry = true) ↔
      ∀ names last access children,
        LeadsTo path (.dir above entries) names last (.dir access children) → dependencyDir ∉ names →
          Opens last access (Path.extend path names) := by
  constructor
  · intro hall names last access children leads hdep
    -- a directory that cannot be opened is a stop itself
    by_contra hclosed
    have hstop : ⟨names, false⟩ ∈ listStops dependencyDir above path entries :=
      mem_listStops_iff.2 ⟨hdep, last, _, leads,
        Stop.at?_eq_some_false_iff.2 ⟨access, children, rfl, hclosed⟩⟩
    exact absurd (hall _ hstop) (by simp)
  · rintro hall ⟨names, isEntry⟩ hstop
    cases isEntry with
    | true => rfl
    | false =>
      obtain ⟨hdep, last, target, leads, hat⟩ := mem_listStops_iff.1 hstop
      obtain ⟨access, children, rfl, hclosed⟩ := Stop.at?_eq_some_false_iff.1 hat
      exact absurd (hall names last access children leads hdep) hclosed

/-! ## The order of the stops -/

mutual

theorem nodeStops_sorted (dependencyDir : OsText) (above : Access) (path name : OsText) :
    ∀ {node : Node}, node.WellFormed →
      (nodeStops dependencyDir above path name node).Pairwise (·.names < ·.names)
  | .dir access entries, .dir _ hsorted hchildren => by
    have hbelow := listStops_sorted dependencyDir access (Path.join path name) hchildren hsorted
    rw [nodeStops]
    split
    · exact .nil
    · split
      · rw [List.pairwise_map]
        exact hbelow.imp fun h => List.cons_lt_cons_iff.2 (.inr ⟨rfl, h⟩)
      · exact List.pairwise_singleton _ _
  | .file _ _, _ | .socket _, _ | .link _, _ => by
    rw [nodeStops_of_entry rfl]
    split
    · exact .nil
    · exact List.pairwise_singleton _ _

/-- A walk comes to its stops in the order of the names that lead to them. -/
theorem listStops_sorted (dependencyDir : OsText) (above : Access) (path : OsText) :
    ∀ {entries : List (OsText × Node)}, (∀ entry ∈ entries, entry.2.WellFormed) →
      entries.Pairwise (·.1 < ·.1) →
        (listStops dependencyDir above path entries).Pairwise (·.names < ·.names)
  | [], _, _ => .nil
  | (name, node) :: rest, hnodes, hsorted => by
    obtain ⟨hfirst, hrest⟩ := List.pairwise_cons.1 hsorted
    have hnode := nodeStops_sorted dependencyDir above path name (hnodes (name, node) (by simp))
    have hothers := listStops_sorted dependencyDir above path
      (fun entry hentry => hnodes entry (by simp [hentry])) hrest
    rw [listStops, List.pairwise_append]
    refine ⟨hnode, hothers, fun stop hstop other hother => ?_⟩
    -- stops under different entries differ in their first names
    obtain ⟨names, hnames⟩ := exists_names_of_mem_nodeStops hstop
    obtain ⟨entry, hentry, hother⟩ := mem_listStops.1 hother
    obtain ⟨names', hnames'⟩ := exists_names_of_mem_nodeStops hother
    rw [hnames, hnames']
    exact List.cons_lt_cons_iff.2 (.inl (hfirst entry hentry))

end

end Walk

end CodeSearch
