import CodeSearch.Proofs.Tree

/-!
# Paths of entries

Where a path leads to a directory that can be searched, the path with a name after it leads to the entry
of that name (`World.locate_join`), as long as it is not too long: following the longer path comes by the directory,
with fewer links left perhaps, and an entry is reached without any (`follow_append`).
-/

namespace CodeSearch

/-- Each entry of a well-formed directory is found under its name. -/
theorem Node.WellFormed.lookup?_eq_some {access : Access} {entries : List (OsText × Node)}
    (h : (Node.dir access entries).WellFormed) {name : OsText} {node : Node}
    (hmem : (name, node) ∈ entries) : lookup? entries name = some node := by
  cases h with
  | dir hnames hsorted hchildren =>
    obtain ⟨before, after, rfl⟩ := List.append_of_mem hmem
    -- the names before it are smaller, so none of them is the same
    have hbefore : ∀ entry ∈ before, (entry.1 == name) = false := by
      intro entry hentry
      have hlt := (List.pairwise_append.1 hsorted).2.2 entry hentry (name, node) (by simp)
      simp only [beq_eq_false_iff_ne]
      rintro rfl
      exact OsText.lt_irrefl _ hlt
    have hnone : before.find? (·.1 == name) = none := by
      simpa using hbefore
    rw [lookup?, List.find?_append, hnone]
    simp

section Follow

variable {place middle : Place} {before : List OsText}

/-- Segments that lead somewhere do so with others after them, or they lead to a link first. -/
theorem followSegments_append {onLink : Place → OsText → List OsText → Except OsError Place}
    (h : followSegments onLink false place before = .ok middle) :
    (∀ onLink' keepLast rest, followSegments onLink' keepLast place (before ++ rest) =
      followSegments onLink' keepLast middle rest) ∨
    ∃ directory target after, onLink directory target after = .ok middle ∧
      ∀ onLink' keepLast rest, rest ≠ [] →
        followSegments onLink' keepLast place (before ++ rest) =
          onLink' directory target (after ++ rest) := by
  induction before generalizing place with
  | nil =>
    obtain rfl := Except.ok.inj h
    exact .inl fun _ _ _ => rfl
  | cons segment before ih =>
    rcases followSegments_cons place segment with ⟨next, hnext⟩ | ⟨target, hlink⟩ | ⟨e, herror⟩
    · rw [hnext] at h
      simpa only [List.cons_append, hnext] using ih h
    · -- what is behind the link is followed together with what comes after it
      rw [hlink _ _ _ (.inl rfl)] at h
      refine .inr ⟨place, target, before, h, fun onLink' keepLast rest hrest => ?_⟩
      exact hlink _ _ _ (.inr (by simp [hrest]))
    · rw [herror] at h
      cases h

/-- Where segments lead somewhere, others after them are followed from there. -/
theorem follow_append {links : Nat} (h : follow false links place before = .ok middle) :
    ∃ left, ∀ keepLast rest, rest ≠ [] →
      follow keepLast links place (before ++ rest) = follow keepLast left middle rest := by
  induction links generalizing place before with
  | zero =>
    rcases followSegments_append h with hstraight | ⟨directory, target, after, hlink, -⟩
    · exact ⟨0, fun keepLast rest _ => hstraight _ keepLast rest⟩
    · cases hlink
  | succ links ih =>
    -- each link on the way takes one from what is left at its end
    rcases followSegments_append h with hstraight | ⟨directory, target, after, hlink, happend⟩
    · exact ⟨links + 1, fun keepLast rest _ => hstraight _ keepLast rest⟩
    · by_cases htarget : target = ""
      · simp [htarget] at hlink
      · simp only [htarget, if_false] at hlink
        obtain ⟨left, hleft⟩ := ih hlink
        refine ⟨left, fun keepLast rest hrest => ?_⟩
        rw [follow, happend _ _ _ hrest]
        simp only [htarget, if_false]
        rw [← List.append_assoc]
        exact hleft keepLast rest hrest

/-- A name leads from a directory to the entry that has it, unless that is a link that is followed. -/
theorem follow_name {keepLast : Bool} {links : Nat} {access : Access} {entries : List (OsText × Node)}
    (hplace : place.node = .dir access entries) (hsearched : access.searched = true) {name : OsText}
    (hname : IsName name) {node : Node}
    (hlookup : lookup? entries name = some node) (hlink : node.isLink = false ∨ keepLast = true) :
    follow keepLast links place [name] = .ok (place.child name node) := by
  have hshort : ¬ maxNameLength < name.size := Nat.not_lt.2 hname.short
  have hstep (onLink : Place → OsText → List OsText → Except OsError Place) :
      followSegments onLink keepLast place [name] = .ok (place.child name node) := by
    cases node with
    | link target =>
      obtain rfl : keepLast = true := hlink.resolve_left (by simp [Node.isLink])
      rw [followSegments]
      simp [hplace, hsearched, hname.ne_empty, hname.ne_dot, hname.ne_dotdot, hshort, hlookup]
    | file | socket | dir => exact followSegments_name hplace hsearched hname hlookup rfl
  cases links with
  | zero => exact hstep _
  | succ links => exact hstep _

end Follow

/-- A path to a directory with a slash after it leads to the same place without the slash. -/
theorem follow_of_slash {links : Nat} {place middle : Place} {before : List OsText}
    (h : follow false links place (before ++ [("" : OsText)]) = .ok middle) :
    follow false links place before = .ok middle := by
  cases hbefore : follow false links place before with
  | error e =>
    rw [← List.append_nil before] at hbefore
    rw [follow_append_of_error (by simp [followSegments]) hbefore] at h
    cases h
  | ok found =>
    obtain ⟨left, hleft⟩ := follow_append hbefore
    rw [hleft _ _ (by simp)] at h
    -- the empty segment stays in a directory and is refused elsewhere
    have hstay (onLink : Place → OsText → List OsText → Except OsError Place)
        (h : followSegments onLink false found [("" : OsText)] = .ok middle) : found = middle := by
      rw [followSegments] at h
      split at h
      · simpa [followSegments] using h
      · cases h
    cases left with
    | zero => rw [hstay _ h]
    | succ left => rw [hstay _ h]

/-- Below a path to a directory that can be searched, a name that does not make the path too long leads to its entry; a link
at the end has to be kept. -/
theorem World.locate_join {world : World} {path : OsText} {place : Place}
    (h : world.resolve path = .ok place) {access : Access} {entries : List (OsText × Node)}
    (hplace : place.node = .dir access entries) (hsearched : access.searched = true)
    {name : OsText} (hname : IsName name) {node : Node}
    (hlookup : lookup? entries name = some node) {keepLast : Bool}
    (hlink : node.isLink = false ∨ keepLast = true)
    (hshort : (Path.join path name).size < pathLimit) :
    world.locate (Path.join path name) keepLast = .ok (place.child name node) := by
  obtain ⟨⟨hne, hnul, -⟩, start, hstart, hfollow⟩ := World.resolve_eq_ok_iff.1 h
  have hrelative : Path.isAbsolute name = false := hname.isEntryName.not_isAbsolute
  obtain ⟨first, hpath, hbelow⟩ := Path.segments_join hne hrelative
  -- the segments before the name lead to the directory, a slash at the end or not
  have hfirst : follow false maxLinks start first = .ok place := by
    rcases hpath with hpath | hpath
    · rwa [hpath] at hfollow
    · rw [hpath] at hfollow
      exact follow_of_slash hfollow
  obtain ⟨left, hleft⟩ := follow_append hfirst
  have hpathNe : Path.join path name ≠ "" ∧ 0 ∉ (Path.join path name).bytes := by
    rcases Path.join_relative hrelative path with ⟨rfl, -⟩ | ⟨first, hfirst, heq⟩
    · exact absurd rfl hne
    · have hfirstNul : 0 ∉ first.bytes := by
        rcases hfirst with rfl | ⟨rfl, -⟩
        · exact fun hmem => hnul (List.mem_append_left _ hmem)
        · exact hnul
      rw [heq]
      refine ⟨OsText.append_ne_empty (OsText.append_slash_ne_empty _) _, ?_⟩
      simp [hfirstNul, hname.no_nul, slash]
  unfold World.locate
  rw [if_neg hpathNe.1, if_neg hpathNe.2, if_neg (Nat.not_le.2 hshort), World.start_join hne hrelative,
    hstart, Except.bind, hbelow, hname.isEntryName.segments_eq, hleft _ _ (by simp)]
  exact follow_name hplace hsearched hname hlookup hlink

end CodeSearch
