import CodeSearch.Import
import CodeSearch.Proofs.Path

/-!
# What specifiers resolve to

A relative specifier resolves to plain names that are joined with slashes, so what it names is looked
for below the root and nowhere else (`isAbsolute_of_resolveRelative?`).
-/

namespace CodeSearch

/-- Following a segment keeps the names of a directory not empty and free of slashes. -/
theorem followSpecifier_names {directory target : List String} {segment : String}
    (hdirectory : ∀ name ∈ directory, name ≠ "" ∧ '/' ∉ name.toList)
    (hsegment : '/' ∉ segment.toList) (h : followSpecifier directory segment = some target) :
    ∀ name ∈ target, name ≠ "" ∧ '/' ∉ name.toList := by
  unfold followSpecifier at h
  split at h
  · obtain rfl := Option.some.inj h
    exact hdirectory
  · rename_i hplain
    split at h
    · split at h
      · cases h
      · obtain rfl := Option.some.inj h
        exact fun name hname => hdirectory name (List.dropLast_subset _ hname)
    · obtain rfl := Option.some.inj h
      intro name hname
      rcases List.mem_append.1 hname with hname | hname
      · exact hdirectory name hname
      · obtain rfl := List.mem_singleton.1 hname
        exact ⟨fun hempty => hplain (.inl hempty), hsegment⟩

theorem foldlM_followSpecifier_names {segments directory target : List String}
    (hdirectory : ∀ name ∈ directory, name ≠ "" ∧ '/' ∉ name.toList)
    (hsegments : ∀ segment ∈ segments, '/' ∉ segment.toList)
    (h : segments.foldlM followSpecifier directory = some target) :
    ∀ name ∈ target, name ≠ "" ∧ '/' ∉ name.toList := by
  induction segments generalizing directory with
  | nil =>
    obtain rfl := Option.some.inj h
    exact hdirectory
  | cons segment rest ih =>
    rw [List.foldlM_cons] at h
    obtain ⟨next, hnext, hrest⟩ := Option.bind_eq_some_iff.1 h
    have hfirst := followSpecifier_names hdirectory (hsegments segment (by simp)) hnext
    exact ih hfirst (fun other hother => hsegments other (by simp [hother])) hrest

/-- What a specifier resolves to consists of names. -/
theorem exists_names_of_resolveRelative? {importer specifier path : String}
    (h : resolveRelative? importer specifier = some path) :
    ∃ names, names ≠ [] ∧ path = "/".intercalate names ∧
      ∀ name ∈ names, name ≠ "" ∧ '/' ∉ name.toList := by
  unfold resolveRelative? at h
  dsimp only at h
  split at h
  · cases h
  · cases h
  · rename_i names hne hfold
    obtain rfl := Option.some.inj h
    refine ⟨names, hne, rfl, ?_⟩
    refine foldlM_followSpecifier_names ?_ (fun _ => Text.no_slash_of_mem_segments) hfold
    intro name hname
    obtain ⟨hsegment, hkept⟩ := List.mem_filter.1 (List.dropLast_subset _ hname)
    simp only [decide_eq_true_eq] at hkept
    exact ⟨hkept.1, Text.no_slash_of_mem_segments hsegment⟩

/-- A specifier resolves to a path that is neither absolute nor empty. -/
theorem isAbsolute_of_resolveRelative? {importer specifier path : String}
    (h : resolveRelative? importer specifier = some path) :
    Path.isAbsolute path = false ∧ path ≠ "" := by
  obtain ⟨names, hne, rfl, hnames⟩ := exists_names_of_resolveRelative? h
  have hbytes : ∀ name ∈ names.map OsText.ofText, name ≠ "" ∧ slash ∉ name.bytes := by
    intro name hname
    obtain ⟨text, htext, rfl⟩ := List.mem_map.1 hname
    exact ⟨OsText.ofText_inj.not.2 (hnames text htext).1, OsText.slash_mem_ofText_iff.not.2 (hnames text htext).2⟩
  have hjoined := Path.isAbsolute_joined (by simpa using hne) hbytes
  rw [OsText.joined_ofText] at hjoined
  exact ⟨hjoined.1, fun hempty => hjoined.2 (congrArg OsText.ofText hempty)⟩

end CodeSearch
