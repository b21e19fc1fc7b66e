import CodeSearch.Proofs.Path

/-!
# What paths denote

Following a path never leaves the tree: everything on the way to a place is well formed
(`World.wellFormed_of_resolve`), whatever links it leads through.  Where following a path is refused,
so is following anything below it (`World.stat_join_of_error`).
-/

namespace CodeSearch

/-- Something holds of all nodes on the way to a place and of its own. -/
structure Place.All (P : Node → Prop) (place : Place) : Prop where
  top : P place.top
  trail : ∀ entry ∈ place.trail, P entry.2

theorem Place.All.node {P : Node → Prop} {place : Place} (h : place.All P) : P place.node := by
  unfold Place.node
  split
  · exact h.top
  · rename_i name node rest htrail
    exact h.trail (name, node) (by simp [htrail])

theorem mem_of_lookup?_eq_some {entries : List (OsText × Node)} {name : OsText} {node : Node}
    (h : lookup? entries name = some node) : (name, node) ∈ entries := by
  obtain ⟨entry, hfind, rfl⟩ := Option.map_eq_some_iff.1 h
  obtain rfl : entry.1 = name := by simpa using List.find?_some hfind
  exact List.mem_of_find?_eq_some hfind

/-- What following one segment can do: stay, go up, end at a link that is kept, go on behind a link,
or go down. -/
theorem followSegments_cons_cases {onLink : Place → OsText → List OsText → Except OsError Place}
    {keepLast : Bool} {place result : Place} {segment : OsText} {rest : List OsText}
    (h : followSegments onLink keepLast place (segment :: rest) = .ok result) :
    followSegments onLink keepLast place rest = .ok result ∨
      followSegments onLink keepLast place.parent rest = .ok result ∨
      ∃ access entries node, place.node = .dir access entries ∧ lookup? entries segment = some node ∧
        ((keepLast = true ∧ result = place.child segment node) ∨
          (∃ target, onLink place target rest = .ok result) ∨
          (node.isLink = false ∧
            followSegments onLink keepLast (place.child segment node) rest = .ok result)) := by
  rw [followSegments] at h
  split at h
  · rename_i access entries hnode
    split at h
    · cases h
    split at h
    · exact .inl h
    split at h
    · exact .inr (.inl h)
    refine .inr (.inr ⟨access, entries, ?_⟩)
    split at h
    · cases h
    split at h
    · cases h
    · rename_i target hlookup
      refine ⟨_, hnode, hlookup, ?_⟩
      split at h
      · rename_i hkeep
        exact .inl ⟨hkeep.1, (Except.ok.inj h).symm⟩
      · exact .inr (.inl ⟨target, h⟩)
    · rename_i node hlink hlookup
      refine ⟨node, hnode, hlookup, .inr (.inr ⟨?_, h⟩)⟩
      cases node with
      | link target => exact absurd rfl (hlink target)
      | file | socket | dir => rfl
  · cases h

/-- What going up, to the top and down to an entry keeps; unless links are kept, the entry is none. -/
structure Place.IsKept (keepLast : Bool) (P : Place → Prop) : Prop where
  parent : ∀ place, P place → P place.parent
  root : ∀ place, P place → P place.root
  child : ∀ place access entries name node, P place → place.node = .dir access entries →
    lookup? entries name = some node → keepLast = true ∨ node.isLink = false →
    P (place.child name node)

/-- What is kept step by step is kept by following segments, if following links keeps it. -/
theorem Place.IsKept.followSegments {keepLast : Bool} {P : Place → Prop}
    (hkept : Place.IsKept keepLast P)
    {onLink : Place → OsText → List OsText → Except OsError Place}
    (hlink : ∀ {directory target rest result}, P directory →
      onLink directory target rest = .ok result → P result)
    {segments : List OsText} {place result : Place} (hplace : P place)
    (h : followSegments onLink keepLast place segments = .ok result) : P result := by
  induction segments generalizing place with
  | nil =>
    obtain rfl := Except.ok.inj h
    exact hplace
  | cons segment rest ih =>
    -- behind a link the rest of the segments is followed by `onLink`
    rcases followSegments_cons_cases h with hstay | hup | ⟨access, entries, node, hnode, hlookup, hstep⟩
    · exact ih hplace hstay
    · exact ih (hkept.parent place hplace) hup
    · have hdown := hkept.child place access entries segment node hplace hnode hlookup
      rcases hstep with ⟨hkeep, rfl⟩ | ⟨target, hlinked⟩ | ⟨hentry, hnext⟩
      · exact hdown (.inl hkeep)
      · exact hlink hplace hlinked
      · exact ih (hdown (.inr hentry)) hnext

/-- What is kept step by step is kept by following a path. -/
theorem Place.IsKept.follow {keepLast : Bool} {P : Place → Prop} (hkept : Place.IsKept keepLast P)
    {links : Nat} {segments : List OsText} {place result : Place} (hplace : P place)
    (h : follow keepLast links place segments = .ok result) : P result := by
  induction links generalizing place segments result with
  | zero => exact hkept.followSegments (by simp) hplace h
  | succ links ih =>
    refine hkept.followSegments ?_ hplace h
    intro directory target rest result hdirectory h
    by_cases htarget : target = ""
    · simp [htarget] at h
    · simp only [htarget, if_false] at h
      refine ih ?_ h
      split
      · exact hkept.root directory hdirectory
      · exact hdirectory

/-- A link leads nowhere by itself. -/
theorem Place.descend?_of_isLink {place : Place} (h : place.node.isLink = true) (names : List OsText) :
    place.descend? names = none := by
  unfold descend?
  cases hnode : place.node with
  | link target => cases names <;> rfl
  | file | socket | dir => simp [hnode, Node.isLink] at h

/-- What is kept step by step is kept on the way along names. -/
theorem Place.IsKept.descend? {keepLast : Bool} {P : Place → Prop} (hkept : Place.IsKept keepLast P)
    {names : List OsText} {place result : Place} (hplace : P place)
    (h : place.descend? names = some result) : P result := by
  induction names generalizing place with
  | nil =>
    rw [Place.descend?] at h
    split at h
    · exact Option.some.inj h ▸ hplace
    · cases h
  | cons name rest ih =>
    obtain ⟨node, hlookup, hrest⟩ := Option.bind_eq_some_iff.1 h
    cases hnode : place.node with
    | dir access entries =>
      rw [hnode] at hlookup
      have hentry : node.isLink = false := by
        by_contra hlink
        have hend : (place.child name node).node.isLink = true := Bool.eq_true_of_not_eq_false hlink
        rw [Place.descend?_of_isLink hend] at hrest
        cases hrest
      exact ih (hkept.child place access entries name node hplace hnode hlookup (.inr hentry)) hrest
    | file | socket | link =>
      rw [hnode] at hlookup
      cases hlookup

/-- What directories pass on to their entries is kept. -/
theorem Place.isKept_all {keepLast : Bool} {P : Node → Prop}
    (hentry : ∀ access entries name node, P (.dir access entries) → lookup? entries name = some node →
      keepLast = true ∨ node.isLink = false → P node) :
    Place.IsKept keepLast (Place.All P) where
  parent place h := ⟨h.top, fun entry hentry => h.trail entry (List.mem_of_mem_drop hentry)⟩
  root place h := ⟨h.top, by simp [Place.root]⟩
  child place access entries name node h hnode hlookup hlink :=
    ⟨h.top, List.forall_mem_cons.2 ⟨hentry access entries name node (hnode ▸ h.node) hlookup hlink,
      h.trail⟩⟩

section Steps

variable {onLink : Place → OsText → List OsText → Except OsError Place} {keepLast : Bool}
  {place : Place} {access : Access} {entries : List (OsText × Node)} {rest : List OsText}

/-- An empty segment stays in the directory. -/
theorem followSegments_empty (h : place.node = .dir access entries) :
    followSegments onLink keepLast place (↑"" :: rest) =
      followSegments onLink keepLast place rest := by
  rw [followSegments]
  simp only [h, ne_eq, not_true_eq_false, false_and, true_or, if_true, if_false]

/-- A segment that does not stay or go up leads to the entry of that name, if it is no link. -/
theorem followSegments_entry {segment : OsText} (h : place.node = .dir access entries)
    (hopen : ¬ (segment ≠ "" ∧ access.searched = false))
    (hstay : ¬ (segment = "" ∨ segment = ".")) (hup : segment ≠ "..")
    (hshort : ¬ maxNameLength < segment.size) {node : Node}
    (hlookup : lookup? entries segment = some node) (hlink : node.isLink = false) :
    followSegments onLink keepLast place (segment :: rest) =
      followSegments onLink keepLast (place.child segment node) rest := by
  rw [followSegments]
  simp only [h]
  rw [if_neg hopen]
  simp only [hstay, hup, hshort, hlookup, if_false]
  cases node with
  | link target => cases hlink
  | file | socket | dir => rfl

theorem followSegments_name {name : OsText} (h : place.node = .dir access entries)
    (hsearched : access.searched = true) (hname : IsName name)
    {node : Node} (hlookup : lookup? entries name = some node) (hlink : node.isLink = false) :
    followSegments onLink keepLast place (name :: rest) =
      followSegments onLink keepLast (place.child name node) rest :=
  followSegments_entry h (by simp [hsearched]) (not_or.2 ⟨hname.ne_empty, hname.ne_dot⟩) hname.ne_dotdot
    (Nat.not_lt.2 hname.short) hlookup hlink

theorem followSegments_replicate (h : place.node = .dir access entries) (n : Nat) :
    followSegments onLink keepLast place (List.replicate n ("" : OsText)) = .ok place := by
  induction n with
  | zero => rfl
  | succ n ih => rw [List.replicate_succ, followSegments_empty h, ih]

end Steps

/-- What following a segment does before others: it goes on from somewhere, it leads to a link, or it is
refused. -/
theorem followSegments_cons (place : Place) (segment : OsText) :
    (∃ next, ∀ onLink keepLast rest, followSegments onLink keepLast place (segment :: rest) =
      followSegments onLink keepLast next rest) ∨
    (∃ target, ∀ onLink keepLast rest, keepLast = false ∨ rest ≠ [] →
      followSegments onLink keepLast place (segment :: rest) = onLink place target rest) ∨
    ∃ e, ∀ onLink keepLast rest,
      followSegments onLink keepLast place (segment :: rest) = .error e := by
  cases hnode : place.node with
  | dir access entries =>
    by_cases hopen : segment ≠ "" ∧ access.searched = false
    · exact .inr (.inr ⟨.permissionDenied, fun _ _ _ => by
        rw [followSegments]; simp only [hnode]; rw [if_pos hopen]⟩)
    by_cases hstay : segment = "" ∨ segment = "."
    · exact .inl ⟨place, fun _ _ _ => by
        rw [followSegments]; simp only [hnode]; rw [if_neg hopen, if_pos hstay]⟩
    by_cases hup : segment = ".."
    · exact .inl ⟨place.parent, fun _ _ _ => by
        rw [followSegments]; simp only [hnode]; rw [if_neg hopen, if_neg hstay, if_pos hup]⟩
    by_cases hlong : maxNameLength < segment.size
    · exact .inr (.inr ⟨.nameTooLong, fun _ _ _ => by
        rw [followSegments]; simp only [hnode]; rw [if_neg hopen, if_neg hstay, if_neg hup, if_pos hlong]⟩)
    cases hlookup : lookup? entries segment with
    | none =>
      exact .inr (.inr ⟨.notFound, fun _ _ _ => by
        rw [followSegments]; simp only [hnode]; rw [if_neg hopen]
        simp only [hstay, hup, hlong, hlookup, if_false]⟩)
    | some node =>
      cases node with
      | link target =>
        refine .inr (.inl ⟨target, fun onLink keepLast rest hkeep => ?_⟩)
        have hgoes : ¬ (keepLast = true ∧ rest.isEmpty = true) := by
          rintro ⟨rfl, hrest⟩
          simp [List.isEmpty_iff.1 hrest] at hkeep
        rw [followSegments]
        simp only [hnode]
        rw [if_neg hopen]
        simp only [hstay, hup, hlong, hlookup, hgoes, if_false]
      | file | socket | dir =>
        exact .inl ⟨_, fun _ _ _ => followSegments_entry hnode hopen hstay hup hlong hlookup rfl⟩
  | file | socket | link =>
    exact .inr (.inr ⟨.notDirectory, fun _ _ _ => by rw [followSegments]; simp only [hnode]⟩)

/-! ## From the start of a path -/

/-- A path is followed from the top directory or from the working directory. -/
theorem World.start_cases {world : World} {path : OsText} {start : Place}
    (h : world.start path = .ok start) :
    (Path.isAbsolute path = true ∧ start = world.top) ∨
      (Path.isAbsolute path = false ∧ world.workingPlace? = some start) := by
  unfold World.start at h
  cases habsolute : Path.isAbsolute path with
  | true =>
    rw [habsolute] at h
    exact .inl ⟨rfl, (Except.ok.inj h).symm⟩
  | false =>
    rw [habsolute] at h
    cases hworking : world.workingPlace? with
    | none =>
      rw [hworking] at h
      cases h
    | some place =>
      rw [hworking] at h
      exact .inr ⟨rfl, congrArg some (Except.ok.inj h)⟩

/-- What holds of the top directory and is kept step by step holds where a path starts. -/
theorem World.start_of_isKept {world : World} {keepLast : Bool} {P : Place → Prop}
    (hkept : Place.IsKept keepLast P) (htop : P world.top) {path : OsText} {start : Place}
    (h : world.start path = .ok start) : P start := by
  rcases start_cases h with ⟨-, rfl⟩ | ⟨-, hworking⟩
  · exact htop
  · unfold workingPlace? at hworking
    split at hworking
    · exact hkept.descend? htop hworking
    · cases hworking

/-- A path below a root starts where the root does. -/
theorem World.start_join {root path : OsText} (hne : root ≠ "") (h : Path.isAbsolute path = false)
    (world : World) : world.start (Path.join root path) = world.start root := by
  unfold World.start
  rw [Path.isAbsolute_join_relative hne h]

/-- A path denotes a place if it is a path at all and following it leads there. -/
theorem World.resolve_eq_ok_iff {world : World} {path : OsText} {place : Place} :
    world.resolve path = .ok place ↔
      (path ≠ "" ∧ 0 ∉ path.bytes ∧ path.size < pathLimit) ∧
        ∃ start, world.start path = .ok start ∧
          follow false maxLinks start path.segments = .ok place := by
  unfold resolve locate
  by_cases hempty : path = ""
  · simp [hempty]
  · by_cases hnul : 0 ∈ path.bytes
    · simp [hempty, hnul]
    · by_cases hlong : pathLimit ≤ path.size
      · have hshort : ¬ path.size < pathLimit := Nat.not_lt.2 hlong
        simp [hempty, hnul, hlong, hshort]
      · rw [if_neg hempty, if_neg hnul, if_neg hlong]
        cases hstart : world.start path with
        | error e => simp [Except.bind]
        | ok start =>
          simp only [Except.bind, Except.ok.injEq, exists_eq_left']
          exact ⟨fun h => ⟨⟨hempty, hnul, Nat.not_le.1 hlong⟩, h⟩, fun h => h.2⟩

/-- A path that denotes a place is shorter than the limit, and following it leads there. -/
theorem World.resolve_eq_ok {world : World} {path : OsText} {place : Place}
    (h : world.resolve path = .ok place) :
    path.size < pathLimit ∧ ∃ start, world.start path = .ok start ∧
      follow false maxLinks start path.segments = .ok place := by
  obtain ⟨⟨-, -, hshort⟩, hfollow⟩ := resolve_eq_ok_iff.1 h
  exact ⟨hshort, hfollow⟩

/-- What holds of the top directory and is kept step by step holds of what paths denote. -/
theorem World.resolve_of_isKept {world : World} {P : Place → Prop} (hkept : Place.IsKept false P)
    (htop : P world.top) {path : OsText} {place : Place} (h : world.resolve path = .ok place) :
    P place := by
  obtain ⟨-, start, hstart, hfollow⟩ := resolve_eq_ok h
  exact hkept.follow (start_of_isKept hkept htop hstart) hfollow

/-- What holds of the top directory and is passed on to entries that are no links holds of what paths
denote. -/
theorem World.of_resolve {world : World} {P : Node → Prop} (htop : P world.tree.top)
    (hentry : ∀ access entries name node, P (.dir access entries) → (name, node) ∈ entries →
      node.isLink = false → P node)
    {path : OsText} {place : Place} (h : world.resolve path = .ok place) : P place.node := by
  have hkept : Place.IsKept false (Place.All P) :=
    Place.isKept_all fun access entries name node hdir hlookup hlink =>
      hentry access entries name node hdir (mem_of_lookup?_eq_some hlookup)
        (hlink.resolve_left Bool.false_ne_true)
  have hplace : world.top.All P := ⟨htop, fun _ hmem => absurd hmem List.not_mem_nil⟩
  exact (resolve_of_isKept hkept hplace h).node

theorem World.stat_eq_ok_iff {world : World} {path : OsText} {node : Node} :
    world.stat path = .ok node ↔ ∃ place, world.resolve path = .ok place ∧ place.node = node := by
  unfold stat
  cases world.resolve path with
  | error e => simp [Except.map]
  | ok place => simp [Except.map]

/-- All links are followed, so what a path denotes is none. -/
theorem World.isLink_of_stat {world : World} {path : OsText} {node : Node}
    (h : world.stat path = .ok node) : node.isLink = false := by
  obtain ⟨place, hresolve, rfl⟩ := stat_eq_ok_iff.1 h
  exact of_resolve (P := fun node => node.isLink = false) rfl
    (fun _ _ _ _ _ _ hlink => hlink) hresolve

theorem World.isDir_eq_true_iff {world : World} {path : OsText} :
    world.isDir path = true ↔ ∃ access entries, world.stat path = .ok (.dir access entries) := by
  unfold isDir
  cases world.stat path with
  | error e => simp
  | ok node => cases node <;> simp [Node.isDir]

/-- A path that is too long denotes no directory. -/
theorem World.isDir_of_long {world : World} {path : OsText}
    (h : pathLimit ≤ path.size) : world.isDir path = false := by
  rw [← Bool.not_eq_true, isDir_eq_true_iff]
  rintro ⟨access, entries, hstat⟩
  obtain ⟨place, hresolve, -⟩ := stat_eq_ok_iff.1 hstat
  exact absurd (resolve_eq_ok hresolve).1 (Nat.not_lt.2 h)

/-- What a path denotes is well formed. -/
theorem World.wellFormed_of_resolve {world : World} {path : OsText} {place : Place}
    (h : world.resolve path = .ok place) : place.node.WellFormed := by
  refine of_resolve world.tree.wellFormed (fun access entries name node hdir hmem _ => ?_) h
  cases hdir with
  | dir hnames hsorted hchildren => exact hchildren _ hmem

/-- The entries of a node are those of a directory. -/
theorem Node.WellFormed.dir_entries {node : Node} (h : node.WellFormed) :
    (Node.dir node.access node.entries).WellFormed := by
  cases node with
  | dir access entries => exact h
  | file | socket | link =>
    exact .dir (by simp [Node.entries]) (by simp [Node.entries]) (by simp [Node.entries])

theorem Node.WellFormed.child {access : Access} {entries : List (OsText × Node)}
    (h : (Node.dir access entries).WellFormed) {entry : OsText × Node} (hentry : entry ∈ entries) :
    entry.2.WellFormed := by
  cases h with
  | dir hnames hsorted hchildren => exact hchildren entry hentry

theorem Node.WellFormed.rest {access : Access} {entry : OsText × Node} {rest : List (OsText × Node)}
    (h : (Node.dir access (entry :: rest)).WellFormed) : (Node.dir access rest).WellFormed := by
  cases h with
  | dir hnames hsorted hchildren =>
    exact .dir (fun other hother => hnames other (List.mem_cons_of_mem _ hother))
      (List.pairwise_cons.1 hsorted).2
      fun other hother => hchildren other (List.mem_cons_of_mem _ hother)

/-- Names that occur at and below a node. -/
inductive Node.HasName : Node → OsText → Prop where
  | entry {access : Access} {entries : List (OsText × Node)} {name : OsText} {node : Node}
      (mem : (name, node) ∈ entries) : HasName (.dir access entries) name
  | inside {access : Access} {entries : List (OsText × Node)} {other name : OsText} {node : Node}
      (mem : (other, node) ∈ entries) (has : HasName node name) : HasName (.dir access entries) name

mutual

/-- All names at and below a node. -/
def Node.names : Node → List OsText
  | .dir _ entries => Node.entryNames entries
  | _ => []

/-- All names at and below some entries. -/
def Node.entryNames : List (OsText × Node) → List OsText
  | [] => []
  | (name, node) :: rest => name :: (node.names ++ Node.entryNames rest)

end

theorem Node.HasName.of_rest {access : Access} {rest : List (OsText × Node)} {name : OsText}
    (h : (Node.dir access rest).HasName name) (entry : OsText × Node) :
    (Node.dir access (entry :: rest)).HasName name := by
  rcases h with ⟨mem⟩ | ⟨mem, has⟩
  · exact .entry (List.mem_cons_of_mem _ mem)
  · exact .inside (List.mem_cons_of_mem _ mem) has

theorem Node.WellFormed.isName_of_hasName {node : Node} {name : OsText} (h : node.WellFormed)
    (hname : node.HasName name) : IsName name := by
  induction hname with
  | entry mem =>
    cases h with
    | dir hnames hsorted hchildren => exact hnames _ mem
  | inside mem has ih =>
    cases h with
    | dir hnames hsorted hchildren => exact ih (hchildren _ mem)

/-- What a path denotes holds names of the file system. -/
theorem World.hasName_of_resolve {world : World} {path : OsText} {place : Place}
    (h : world.resolve path = .ok place) {name : OsText} (hname : place.node.HasName name) :
    world.tree.top.HasName name := by
  have hnames : ∀ name, place.node.HasName name → world.tree.top.HasName name :=
    of_resolve (P := fun node => ∀ name, node.HasName name → world.tree.top.HasName name)
      (fun _ htop => htop) (fun _ _ _ _ hdir hmem _ name has => hdir name (.inside hmem has)) h
  exact hnames name hname

/-! ## Below a path that is refused -/

section Refused

variable {onLink : Place → OsText → List OsText → Except OsError Place} {place : Place}
  {before after rest : List OsText} {e : OsError}

/-- Where some segments are refused, they are refused with others in place of their end, if that end
is refused for the others from everywhere. -/
theorem followSegments_append_of_error
    (hend : ∀ {place}, followSegments onLink false place after = .error e →
      followSegments onLink false place rest = .error e)
    (hlink : ∀ {directory target before}, onLink directory target (before ++ after) = .error e →
      onLink directory target (before ++ rest) = .error e)
    (h : followSegments onLink false place (before ++ after) = .error e) :
    followSegments onLink false place (before ++ rest) = .error e := by
  induction before generalizing place with
  | nil => exact hend h
  | cons segment before ih =>
    rw [List.cons_append] at h ⊢
    rcases followSegments_cons place segment with ⟨next, hnext⟩ | ⟨target, htarget⟩ | ⟨cause, hcause⟩
    · rw [hnext] at h ⊢
      exact ih h
    · -- no link is kept, so what is behind it decides
      rw [htarget _ _ _ (.inl rfl)] at h ⊢
      exact hlink h
    · rw [hcause] at h ⊢
      exact h

/-- An end that is refused by itself is refused with anything else in its place. -/
theorem follow_append_of_error {links : Nat}
    (hend : ∀ {onLink place}, followSegments onLink false place after = .error e →
      followSegments onLink false place rest = .error e)
    (h : follow false links place (before ++ after) = .error e) :
    follow false links place (before ++ rest) = .error e := by
  induction links generalizing place before with
  | zero => exact followSegments_append_of_error hend (fun h => h) h
  | succ links ih =>
    refine followSegments_append_of_error hend ?_ h
    intro directory target before h
    by_cases htarget : target = ""
    · simpa [htarget] using h
    · simp only [htarget, if_false, ← List.append_assoc] at h ⊢
      exact ih h

/-- A node that is refused one empty segment is no directory, so it is refused any segment. -/
theorem followSegments_of_empty_error (hne : rest ≠ [])
    (h : followSegments onLink false place [("" : OsText)] = .error e) :
    followSegments onLink false place rest = .error e := by
  cases rest with
  | nil => exact absurd rfl hne
  | cons segment rest =>
    rw [followSegments] at h ⊢
    split at h
    · -- an empty segment stays in a directory
      simp [followSegments] at h
    · exact h

end Refused

/-- Where following a root is refused, following anything below it is. -/
theorem follow_join_of_error {links : Nat} {place : Place} {root path : OsText} {e : OsError}
    (hne : root ≠ "") (hpath : Path.isAbsolute path = false)
    (h : follow false links place root.segments = .error e) :
    follow false links place (Path.join root path).segments = .error e := by
  have hsegments : path.segments ≠ [] := OsText.segments_ne_nil path
  obtain ⟨first, hroot, hbelow⟩ := Path.segments_join hne hpath
  rw [hbelow]
  rcases hroot with hroot | hroot
  · rw [hroot, ← List.append_nil first] at h
    exact follow_append_of_error (by simp [followSegments]) h
  · rw [hroot] at h
    exact follow_append_of_error (followSegments_of_empty_error hsegments) h

/-- Nothing below a root that is refused can be looked at. -/
theorem World.stat_join_of_error {world : World} {root path : OsText} {e : OsError}
    (hne : root ≠ "") (hpath : Path.isAbsolute path = false) (h : world.stat root = .error e) :
    ∃ cause, world.stat (Path.join root path) = .error cause := by
  cases hbelow : world.stat (Path.join root path) with
  | error cause => exact ⟨cause, rfl⟩
  | ok node =>
    exfalso
    obtain ⟨place, hresolve, -⟩ := stat_eq_ok_iff.1 hbelow
    obtain ⟨⟨-, hnul, hshort⟩, start, hstart, hfollow⟩ := resolve_eq_ok_iff.1 hresolve
    rw [start_join hne hpath] at hstart
    obtain ⟨rest, hjoin⟩ := Path.exists_join_eq_append hpath root
    -- the root is a path at all, since the longer path is one
    rw [hjoin, OsText.bytes_append, List.mem_append, not_or] at hnul
    rw [hjoin, OsText.size_append] at hshort
    cases hroot : follow false maxLinks start root.segments with
    | ok found =>
      have hfound := resolve_eq_ok_iff.2 ⟨⟨hne, hnul.1, by omega⟩, start, hstart, hroot⟩
      rw [stat_eq_ok_iff.2 ⟨found, hfound, rfl⟩] at h
      cases h
    | error cause =>
      rw [follow_join_of_error hne hpath hroot] at hfollow
      cases hfollow

end CodeSearch
