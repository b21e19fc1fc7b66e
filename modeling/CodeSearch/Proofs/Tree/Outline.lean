import CodeSearch.Proofs.Tree

/-!
# What finding a place depends on

Where a path leads depends on names and links alone.  `Node.outline` forgets what files hold and when
they were written, and following a path commutes with it (`follow_outline`): in two file systems with
one outline every path leads to the same place or is refused for the same reason.

`Node.SameBut` relates trees that differ in one regular file.  They have one outline, and a path that
does not lead to that file reads the same bytes in both (`World.readBytes_eq_of_sameBut`).
-/

namespace CodeSearch

/-! ## Outlines -/

mutual

/-- A node without what its files hold and when they were written. -/
def Node.outline : Node → Node
  | .file _ _ => .file none default
  | .socket modified => .socket modified
  | .link target => .link target
  | .dir access entries => .dir access (Node.outlines entries)

/-- Entries without what their files hold and when they were written. -/
def Node.outlines : List (OsText × Node) → List (OsText × Node)
  | [] => []
  | (name, node) :: rest => (name, node.outline) :: Node.outlines rest

end

theorem Node.outlines_eq_map (entries : List (OsText × Node)) :
    Node.outlines entries = entries.map fun entry => (entry.1, entry.2.outline) := by
  induction entries with
  | nil => rfl
  | cons entry rest ih => rw [Node.outlines, ih, List.map_cons]

theorem lookup?_outlines (entries : List (OsText × Node)) (name : OsText) :
    lookup? (Node.outlines entries) name = (lookup? entries name).map Node.outline := by
  rw [Node.outlines_eq_map, lookup?, lookup?, List.find?_map, Option.map_map, Option.map_map]
  rfl

/-- A place without what files hold and when they were written. -/
def Place.outline (place : Place) : Place :=
  ⟨place.top.outline, place.trail.map fun entry => (entry.1, entry.2.outline)⟩

namespace Place

variable (place : Place)

@[simp] theorem node_outline : place.outline.node = place.node.outline := by
  obtain ⟨top, trail⟩ := place
  cases trail <;> rfl

@[simp] theorem names_outline : place.outline.names = place.names := by
  simp [names, outline, List.map_map, Function.comp_def]

@[simp] theorem path_outline : place.outline.path = place.path := by
  rw [path, path, names_outline]

@[simp] theorem parent_outline : place.outline.parent = place.parent.outline := by
  simp [parent, outline]

@[simp] theorem root_outline : place.outline.root = place.root.outline := rfl

@[simp] theorem child_outline (name : OsText) (node : Node) :
    place.outline.child name node.outline = (place.child name node).outline := rfl

theorem ancestors_outline : place.outline.ancestors = place.ancestors.map outline := by
  simp [ancestors, outline, List.map_drop]

end Place

/-- Two results that are the same once contents are forgotten: one refusal, or places with one
outline. -/
theorem Place.outline_cases {ε : Type} {result result' : Except ε Place}
    (h : result.map Place.outline = result'.map Place.outline) :
    (∃ e, result = .error e ∧ result' = .error e) ∨
      ∃ place place', result = .ok place ∧ result' = .ok place' ∧
        place.outline = place'.outline := by
  cases result with
  | error e =>
    cases result' with
    | error e' =>
      obtain rfl : e = e' := Except.error.inj h
      exact .inl ⟨e, rfl, rfl⟩
    | ok place' => cases h
  | ok place =>
    cases result' with
    | error e' => cases h
    | ok place' => exact .inr ⟨place, place', rfl, rfl, Except.ok.inj h⟩

theorem Place.names_congr {place place' : Place} (h : place.outline = place'.outline) :
    place.names = place'.names := by
  rw [← place.names_outline, h, place'.names_outline]

theorem Place.node_congr {place place' : Place} (h : place.outline = place'.outline) :
    place.node.outline = place'.node.outline := by
  rw [← place.node_outline, h, place'.node_outline]

theorem Place.access_congr {place place' : Place} (h : place.outline = place'.outline) :
    place.node.access = place'.node.access := by
  have haccess (node : Node) : node.outline.access = node.access := by
    cases node <;> rfl
  rw [← haccess, Place.node_congr h, haccess]

/-- Following segments commutes with forgetting, if following links does. -/
theorem followSegments_outline {onLink : Place → OsText → List OsText → Except OsError Place}
    (hlink : ∀ place target rest,
      onLink place.outline target rest = (onLink place target rest).map Place.outline)
    (keepLast : Bool) (place : Place) (segments : List OsText) :
    followSegments onLink keepLast place.outline segments =
      (followSegments onLink keepLast place segments).map Place.outline := by
  induction segments generalizing place with
  | nil => rfl
  | cons segment rest ih =>
    rw [followSegments, followSegments, Place.node_outline]
    cases place.node with
    | dir access entries =>
      simp only [Node.outline]
      by_cases hclosed : segment ≠ "" ∧ access.searched = false
      · rw [if_pos hclosed, if_pos hclosed]
        rfl
      rw [if_neg hclosed, if_neg hclosed]
      by_cases hstay : segment = "" ∨ segment = "."
      · rw [if_pos hstay, if_pos hstay, ih]
      rw [if_neg hstay, if_neg hstay]
      by_cases hup : segment = ".."
      · rw [if_pos hup, if_pos hup, Place.parent_outline, ih]
      rw [if_neg hup, if_neg hup]
      by_cases hlong : maxNameLength < segment.size
      · rw [if_pos hlong, if_pos hlong]
        rfl
      rw [if_neg hlong, if_neg hlong, lookup?_outlines]
      cases lookup? entries segment with
      | none => rfl
      | some node =>
        cases node with
        | link target =>
          simp only [Option.map_some, Node.outline]
          split
          · rfl
          · exact hlink place target rest
        | file content modified => exact ih (place.child segment (.file content modified))
        | socket modified => exact ih (place.child segment (.socket modified))
        | dir rights below => exact ih (place.child segment (.dir rights below))
    | file | socket | link => rfl

/-- Following a path commutes with forgetting. -/
theorem follow_outline (keepLast : Bool) (links : Nat) (place : Place) (segments : List OsText) :
    follow keepLast links place.outline segments =
      (follow keepLast links place segments).map Place.outline := by
  induction links generalizing place segments with
  | zero => exact followSegments_outline (fun _ _ _ => rfl) keepLast place segments
  | succ links ih =>
    refine followSegments_outline (fun place target rest => ?_) keepLast place segments
    dsimp only
    by_cases htarget : target = ""
    · rw [if_pos htarget, if_pos htarget]
      rfl
    · rw [if_neg htarget, if_neg htarget, Place.root_outline, ← ih]
      split <;> rfl

/-- Names lead to the same place, whatever files hold. -/
theorem Place.descend?_outline (place : Place) (names : List OsText) :
    place.outline.descend? names = (place.descend? names).map outline := by
  induction names generalizing place with
  | nil =>
    have hdir : place.outline.node.isDir = place.node.isDir := by
      rw [node_outline]
      cases place.node <;> rfl
    rw [descend?, descend?, hdir]
    split <;> rfl
  | cons name rest ih =>
    have hentries : place.outline.node.entries = Node.outlines place.node.entries := by
      rw [node_outline]
      cases place.node <;> rfl
    rw [descend?, descend?, hentries, lookup?_outlines, Option.bind_map, Option.map_bind]
    exact Option.bind_congr fun node _ => ih (place.child name node)

/-- In file systems with one outline, a path starts at the same place. -/
theorem World.start_outline_congr {world other : World}
    (htop : world.tree.top.outline = other.tree.top.outline)
    (hdirectory : world.workingDirectory = other.workingDirectory) (path : OsText) :
    (world.start path).map Place.outline = (other.start path).map Place.outline := by
  have hplace : world.top.outline = other.top.outline := congrArg (Place.mk · []) htop
  have hworking : world.workingPlace?.map Place.outline = other.workingPlace?.map Place.outline := by
    unfold workingPlace?
    rw [hdirectory]
    split
    · rw [← Place.descend?_outline, ← Place.descend?_outline, hplace]
    · rfl
  unfold start
  split
  · exact congrArg Except.ok hplace
  · cases hplaceWorld : world.workingPlace? with
    | none =>
      rw [hplaceWorld, Option.map_none, eq_comm, Option.map_eq_none_iff] at hworking
      rw [hworking]
    | some found =>
      rw [hplaceWorld, Option.map_some, eq_comm, Option.map_eq_some_iff] at hworking
      obtain ⟨found', hfound, houtline⟩ := hworking
      rw [hfound]
      exact congrArg Except.ok houtline.symm

/-- In file systems with one outline, a path leads to the same place or is refused for the same
reason. -/
theorem World.resolve_outline_congr {world other : World}
    (htop : world.tree.top.outline = other.tree.top.outline)
    (hdirectory : world.workingDirectory = other.workingDirectory) (path : OsText) :
    (world.resolve path).map Place.outline = (other.resolve path).map Place.outline := by
  unfold resolve locate
  by_cases hempty : path = ""
  · rw [if_pos hempty, if_pos hempty]
  by_cases hnul : 0 ∈ path.bytes
  · rw [if_neg hempty, if_neg hempty, if_pos hnul, if_pos hnul]
  by_cases hlong : pathLimit ≤ path.size
  · rw [if_neg hempty, if_neg hempty, if_neg hnul, if_neg hnul, if_pos hlong, if_pos hlong]
  rw [if_neg hempty, if_neg hempty, if_neg hnul, if_neg hnul, if_neg hlong, if_neg hlong]
  rcases Place.outline_cases (start_outline_congr htop hdirectory path) with
    ⟨e, hworld, hother⟩ | ⟨place, place', hworld, hother, hplace⟩
  · rw [hworld, hother]
  · rw [hworld, hother]
    show (follow false maxLinks place path.segments).map Place.outline =
      (follow false maxLinks place' path.segments).map Place.outline
    rw [← follow_outline, ← follow_outline, hplace]

/-! ## Where a place is -/

/-- The node that some names lead to. -/
def Node.at? (node : Node) : List OsText → Option Node
  | [] => some node
  | name :: rest => (lookup? node.entries name).bind fun child => child.at? rest

theorem Node.at?_append (node : Node) (names rest : List OsText) :
    node.at? (names ++ rest) = (node.at? names).bind fun below => below.at? rest := by
  induction names generalizing node with
  | nil => rfl
  | cons name names ih =>
    rw [List.cons_append, Node.at?, Node.at?, Option.bind_assoc]
    exact Option.bind_congr fun child _ => ih child

/-- Each node on the way to a place is the entry of the one above that has its name. -/
inductive Place.IsSound : Place → Prop where
  | top (node : Node) : IsSound ⟨node, []⟩
  | child {place : Place} {name : OsText} {node : Node} (sound : IsSound place)
      (hlookup : lookup? place.node.entries name = some node) : IsSound (place.child name node)

namespace Place.IsSound

variable {place : Place}

theorem parent (h : place.IsSound) : place.parent.IsSound := by
  cases h with
  | top node => exact .top node
  | child sound _ => exact sound

theorem isKept (keepLast : Bool) : Place.IsKept keepLast IsSound where
  parent _ := parent
  root place _ := .top place.top
  child place access entries name node hplace hnode hlookup _ := by
    refine .child hplace ?_
    rw [hnode]
    exact hlookup

/-- The names of a place lead from the top to its node. -/
theorem at?_names (h : place.IsSound) : place.top.at? place.names = some place.node := by
  induction h with
  | top node => rfl
  | @child place name node sound hlookup ih =>
    have hnames : (place.child name node).names = place.names ++ [name] := by
      simp [names, Place.child]
    rw [hnames, Node.at?_append]
    show (place.top.at? place.names).bind _ = some node
    rw [ih]
    show (lookup? place.node.entries name).bind _ = some node
    rw [hlookup]
    rfl

end Place.IsSound

/-- What a path denotes is where the names of its place lead. -/
theorem World.at?_of_resolve {world : World} {path : OsText} {place : Place}
    (h : world.resolve path = .ok place) :
    world.tree.top.at? place.names = some place.node := by
  let P (place : Place) : Prop := place.IsSound ∧ place.top = world.tree.top
  have hkept : Place.IsKept false P := by
    refine ⟨?_, ?_, ?_⟩
    · exact fun place hplace => ⟨hplace.1.parent, hplace.2⟩
    · exact fun place hplace => ⟨.top place.top, hplace.2⟩
    · exact fun place access entries name node hplace hnode hlookup hentry =>
        ⟨(Place.IsSound.isKept false).child place access entries name node hplace.1 hnode hlookup
          hentry, hplace.2⟩
  obtain ⟨hsound, htop⟩ := resolve_of_isKept hkept ⟨.top _, rfl⟩ h
  rw [← htop]
  exact hsound.at?_names

/-! ## Trees that differ in one file -/

/-- Two trees are the same, but for the regular file that `address` leads to: it may hold something
else, may have been written at another time, and may be open to the user in one only. -/
inductive Node.SameBut : (address : List OsText) → Node → Node → Prop where
  | file {content content' : Option ByteArray} {modified modified' : Instant} :
      SameBut [] (.file content modified) (.file content' modified')
  | dir (access : Access) (before after : List (OsText × Node)) (name : OsText) {address : List OsText}
      {node node' : Node} (below : SameBut address node node') :
      SameBut (name :: address) (.dir access (before ++ (name, node) :: after))
        (.dir access (before ++ (name, node') :: after))

/-- What reading a node as a file yields. -/
def Node.read : Node → Except OsError ByteArray
  | .file (some content) _ => .ok content
  | .file none _ => .error .permissionDenied
  | .dir _ _ => .error .isDirectory
  | _ => .error .noDevice

theorem World.readBytes_eq (world : World) (path : OsText) :
    world.readBytes path = (world.resolve path).bind fun place => place.node.read := by
  have hstat : world.stat path = (world.resolve path).map Place.node := rfl
  unfold readBytes
  rw [hstat]
  cases world.resolve path with
  | error e => rfl
  | ok place =>
    simp only [Except.map, Except.bind]
    cases place.node with
    | file content modified => cases content <;> rfl
    | socket | link | dir => rfl

namespace Node.SameBut

variable {address : List OsText} {node node' : Node}

theorem outline_eq (h : SameBut address node node') : node.outline = node'.outline := by
  induction h with
  | file => rfl
  | dir access before after name below ih =>
    rw [outline, outline, outlines_eq_map, outlines_eq_map]
    simp [ih]

/-- All other nodes read the same. -/
theorem read_at?_eq (h : SameBut address node node') {names : List OsText} (hne : names ≠ address) :
    (node.at? names).map read = (node'.at? names).map read := by
  induction h generalizing names with
  | file =>
    cases names with
    | nil => exact absurd rfl hne
    | cons name rest => rfl
  | @dir access before after entry address child child' below ih =>
    cases names with
    | nil => rfl
    | cons name rest =>
      simp only [at?, entries, lookup?, List.find?_append, List.find?_cons]
      cases before.find? (·.1 == name) with
      | some found => rfl
      | none =>
        cases hname : entry == name with
        | true =>
          obtain rfl := beq_iff_eq.1 hname
          have hrest : rest ≠ address := fun heq => hne (heq ▸ rfl)
          simpa using ih hrest
        | false => rfl

end Node.SameBut

/-- A path that does not lead to the one file that differs reads the same. -/
theorem World.readBytes_eq_of_sameBut {world other : World} {address : List OsText}
    (hbut : Node.SameBut address world.tree.top other.tree.top)
    (hdirectory : world.workingDirectory = other.workingDirectory) {path : OsText}
    (hpath : ∀ place, world.resolve path = .ok place → place.names ≠ address) :
    other.readBytes path = world.readBytes path := by
  have hresolve := resolve_outline_congr hbut.outline_eq hdirectory path
  rw [readBytes_eq, readBytes_eq]
  rcases Place.outline_cases hresolve with
    ⟨e, hworld, hother⟩ | ⟨place, place', hworld, hother, hplace⟩
  · rw [hworld, hother]
  · have hread := hbut.read_at?_eq (hpath place hworld)
    rw [at?_of_resolve hworld, Place.names_congr hplace, at?_of_resolve hother] at hread
    rw [hworld, hother]
    exact (Option.some.inj hread).symm

end CodeSearch
