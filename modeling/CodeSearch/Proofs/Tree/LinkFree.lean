import CodeSearch.Proofs.Tree.Outline

/-!
# Trees without links

Where there are no symbolic links, following a path does in the tree what folding does to its text: a
segment stays, goes up or goes down in both alike (`Place.Step`).  So a path that leads somewhere leads
to the place with its folded names (`World.names_of_resolve`), and what it denotes is a matter of its
folded form (`World.stat_congr`).  A path of something else than a directory ends with its name
(`World.fileName?_of_stat`).
-/

namespace CodeSearch

open CodeSearch.Path (Folded)

mutual

/-- Whether there is no symbolic link at and below a node. -/
def Node.isLinkFree : Node → Bool
  | .link _ => false
  | .dir _ entries => Node.areLinkFree entries
  | _ => true

/-- Whether there is no symbolic link at and below some entries. -/
def Node.areLinkFree : List (OsText × Node) → Bool
  | [] => true
  | (_, node) :: rest => node.isLinkFree && Node.areLinkFree rest

end

theorem Node.isLinkFree_of_mem {entries : List (OsText × Node)}
    (h : Node.areLinkFree entries = true) : ∀ entry ∈ entries, entry.2.isLinkFree = true := by
  induction entries with
  | nil => simp
  | cons entry rest ih =>
    rw [areLinkFree, Bool.and_eq_true] at h
    exact List.forall_mem_cons.2 ⟨h.1, ih h.2⟩

/-- The entries of a node without links have none. -/
theorem Node.isLinkFree_of_lookup? {node child : Node} {name : OsText}
    (h : node.isLinkFree = true) (hlookup : lookup? node.entries name = some child) :
    child.isLinkFree = true := by
  have hmem := mem_of_lookup?_eq_some hlookup
  cases node with
  | dir access entries => exact isLinkFree_of_mem h _ hmem
  | file | socket | link => simp [entries] at hmem

namespace Place

variable {place next result : Place} {segment : OsText} {segments : List OsText}

/-- What following one segment does where there are no links. -/
inductive Step (place : Place) : (segment : OsText) → (next : Place) → Prop where
  | stay {segment : OsText} (h : segment = "" ∨ segment = ".") : Step place segment place
  | up : Step place (".." : OsText) place.parent
  | down {segment : OsText} {node : Node} (hstay : ¬ (segment = "" ∨ segment = "."))
      (hup : segment ≠ "..") (hlookup : lookup? place.node.entries segment = some node) :
      Step place segment (place.child segment node)

theorem names_child (name : OsText) (node : Node) :
    (place.child name node).names = place.names ++ [name] := by
  simp [names, child]

theorem names_parent : place.parent.names = place.names.dropLast := by
  obtain ⟨top, trail⟩ := place
  cases trail <;> simp [names, parent]

namespace IsSound

theorem isLinkFree (h : place.IsSound) (hfree : place.top.isLinkFree = true) :
    place.node.isLinkFree = true := by
  induction h with
  | top node => exact hfree
  | child sound hlookup ih => exact Node.isLinkFree_of_lookup? (ih hfree) hlookup

/-- What is above a directory is a directory. -/
theorem isDir_parent (h : place.IsSound) (hdir : place.node.isDir = true) :
    place.parent.node.isDir = true := by
  cases h with
  | top node => exact hdir
  | @child above name node sound hlookup =>
    show above.node.isDir = true
    cases hnode : above.node with
    | dir access entries => rfl
    | file | socket | link => simp [hnode, Node.entries, lookup?] at hlookup

end IsSound

namespace Step

theorem isSound (h : place.Step segment next) (hsound : place.IsSound) : next.IsSound := by
  cases h with
  | stay => exact hsound
  | up => exact hsound.parent
  | down hstay hup hlookup => exact .child hsound hlookup

theorem top_eq (h : place.Step segment next) : next.top = place.top := by
  cases h <;> rfl

/-- A segment is folded as it is followed. -/
theorem step_names (h : place.Step segment next) :
    Folded.step ⟨true, 0, place.names⟩ segment = ⟨true, 0, next.names⟩ := by
  cases h with
  | stay h => rw [Folded.step, if_pos h]
  | up =>
    have hplain : ¬ ((".." : OsText) = "" ∨ (".." : OsText) = ".") := by decide
    rw [names_parent, Folded.step, if_neg hplain, if_pos rfl]
    cases hnames : place.names with
    | nil => rfl
    | cons name rest => rfl
  | down hstay hup hlookup => rw [Folded.step, if_neg hstay, if_neg hup, names_child]

end Step

variable {onLink : Place → OsText → List OsText → Except OsError Place} {keepLast : Bool}

/-- Where there are no links, a segment that can be followed makes a step from a directory. -/
theorem IsSound.exists_step {rest : List OsText} (hsound : place.IsSound)
    (hfree : place.top.isLinkFree = true)
    (h : followSegments onLink keepLast place (segment :: rest) = .ok result) :
    place.node.isDir = true ∧
      ∃ next, place.Step segment next ∧
        followSegments onLink keepLast next rest = .ok result := by
  rw [followSegments] at h
  split at h
  case h_2 => cases h
  case h_1 access entries hnode =>
    refine ⟨by rw [hnode]; rfl, ?_⟩
    have hentries : entries = place.node.entries := by rw [hnode]; rfl
    split at h
    · cases h
    split at h
    · rename_i hstay
      exact ⟨place, .stay hstay, h⟩
    · rename_i hstay
      split at h
      · rename_i hup
        exact ⟨place.parent, hup ▸ .up, h⟩
      · rename_i hup
        split at h
        · cases h
        · split at h
          · cases h
          · rename_i target hlookup
            -- an entry of a tree without links is no link
            have hentry := Node.isLinkFree_of_lookup? (hsound.isLinkFree hfree)
              (hentries ▸ hlookup)
            cases hentry
          · rename_i node _ hlookup
            exact ⟨_, .down hstay hup (hentries ▸ hlookup), h⟩

/-- Segments that can be followed lead to the place with the folded names. -/
theorem IsSound.names_of_followSegments (hsound : place.IsSound)
    (hfree : place.top.isLinkFree = true)
    (h : followSegments onLink keepLast place segments = .ok result) :
    segments.foldl Folded.step ⟨true, 0, place.names⟩ = ⟨true, 0, result.names⟩ := by
  induction segments generalizing place with
  | nil =>
    obtain rfl := Except.ok.inj h
    rfl
  | cons segment rest ih =>
    obtain ⟨-, next, hstep, hrest⟩ := hsound.exists_step hfree h
    rw [List.foldl_cons, hstep.step_names]
    exact ih (hstep.isSound hsound) (hstep.top_eq ▸ hfree) hrest

/-- Segments that lead to something else than a directory end with its name. -/
theorem IsSound.getLast?_of_followSegments (hsound : place.IsSound)
    (hfree : place.top.isLinkFree = true)
    (h : followSegments onLink keepLast place segments = .ok result) (hne : segments ≠ [])
    (hfile : result.node.isDir = false) :
    ∃ name, segments.getLast? = some name ∧ result.names.getLast? = some name ∧
      ¬ (name = "" ∨ name = ".") ∧ name ≠ ".." := by
  induction segments generalizing place with
  | nil => exact absurd rfl hne
  | cons segment rest ih =>
    obtain ⟨hdir, next, hstep, hrest⟩ := hsound.exists_step hfree h
    by_cases hlast : rest = []
    · subst hlast
      obtain rfl := Except.ok.inj hrest
      -- staying and going up end at directories
      cases hstep with
      | stay => rw [hdir] at hfile; cases hfile
      | up => rw [hsound.isDir_parent hdir] at hfile; cases hfile
      | down hstay hup hlookup =>
        exact ⟨segment, rfl, by rw [names_child, List.getLast?_concat], hstay, hup⟩
    · obtain ⟨name, hname, hplain⟩ :=
        ih (hstep.isSound hsound) (hstep.top_eq ▸ hfree) hrest hlast
      refine ⟨name, ?_, hplain⟩
      obtain ⟨first, others, rfl⟩ := List.exists_cons_of_ne_nil hlast
      rw [List.getLast?_cons_cons, hname]

end Place

namespace World

variable {world : World} {path other : OsText}

/-- An absolute path is followed from the top, and links play no part where there are none. -/
theorem exists_followSegments_of_resolve (hpath : Path.isAbsolute path = true) {place : Place}
    (h : world.resolve path = .ok place) :
    ∃ onLink, followSegments onLink false world.top path.segments = .ok place := by
  obtain ⟨-, start, hstart, hfollow⟩ := resolve_eq_ok h
  rw [World.start, if_pos hpath] at hstart
  obtain rfl := Except.ok.inj hstart
  exact ⟨_, hfollow⟩

section

variable (hfree : world.tree.top.isLinkFree = true) (hpath : Path.isAbsolute path = true)
include hfree hpath

/-- A path that leads somewhere leads along its folded names. -/
theorem names_of_resolve {place : Place} (h : world.resolve path = .ok place) :
    (Folded.ofPath path).names = place.names := by
  obtain ⟨onLink, hfollow⟩ := exists_followSegments_of_resolve hpath h
  have hnames := (Place.IsSound.top world.tree.top).names_of_followSegments hfree hfollow
  rw [Folded.ofPath, hpath]
  exact congrArg Folded.names hnames

/-- Two spellings of one path that both denote something denote the same. -/
theorem stat_congr (hsame : Folded.ofPath path = Folded.ofPath other)
    (hother : Path.isAbsolute other = true) {node node' : Node} (h : world.stat path = .ok node)
    (h' : world.stat other = .ok node') : node = node' := by
  obtain ⟨place, hplace, rfl⟩ := stat_eq_ok_iff.1 h
  obtain ⟨place', hplace', rfl⟩ := stat_eq_ok_iff.1 h'
  have hnames : place.names = place'.names := by
    rw [← names_of_resolve hfree hpath hplace, ← names_of_resolve hfree hother hplace', hsame]
  have hnode := at?_of_resolve hplace
  rw [hnames, at?_of_resolve hplace'] at hnode
  exact (Option.some.inj hnode).symm

/-- A path of something else than a directory has the last of its folded names. -/
theorem fileName?_of_stat {node : Node} (h : world.stat path = .ok node)
    (hfile : node.isDir = false) :
    Path.fileName? path = (Folded.ofPath path).names.getLast? := by
  obtain ⟨place, hplace, rfl⟩ := stat_eq_ok_iff.1 h
  obtain ⟨onLink, hfollow⟩ := exists_followSegments_of_resolve hpath hplace
  obtain ⟨name, hlast, hname, hstay, hup⟩ :=
    (Place.IsSound.top world.tree.top).getLast?_of_followSegments hfree hfollow
      (OsText.segments_ne_nil path) hfile
  obtain ⟨init, hsegments⟩ := List.getLast?_eq_some_iff.1 hlast
  rw [names_of_resolve hfree hpath hplace, hname, Path.fileName?, hsegments, List.reverse_append]
  have hfound : ([name].reverse ++ init.reverse).find? (fun s : OsText => s ≠ "" ∧ s ≠ ".") = some name :=
    List.find?_cons_of_pos (by simpa using not_or.1 hstay)
  rw [hfound]
  simp [hup]

end

end World

end CodeSearch
