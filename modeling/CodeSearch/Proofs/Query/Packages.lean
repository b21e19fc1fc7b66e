import CodeSearch.Proofs.Query.Exclusion
import CodeSearch.Proofs.Query.MissingRoot
import CodeSearch.Proofs.Walk.Ways

/-!
# Packages are found where no walk looks

The dependency directory is used in two ways: the candidates of a package are put below it as below a
path, and walks leave out the entries that have it as their name.  Where it is a single name the two
agree, whatever else a walk shows or follows: candidates fold to paths through that name
(`exists_ofPath_join_candidate`), and no way of a walk passes through it.  Where it is a path of
several names they differ, since no entry has such a name.
-/

namespace CodeSearch

open CodeSearch.Path (Folded)

/-! ## Names of packages -/

/-- A package name is a single name, or a scope and a single name with a slash between them. -/
theorem isModuleName_cases {name : String} (h : isModuleName name = true) :
    IsSingleName name ∨
      ∃ scope single, scope ≠ [] ∧ '/' ∉ scope ∧ IsSingleName single ∧
        name = String.ofList ('@' :: scope) ++ "/" ++ single := by
  have hjoin := Text.intercalate_segments name
  have hslash : ∀ segment ∈ Text.segments name, '/' ∉ segment.toList :=
    fun segment => Text.no_slash_of_mem_segments
  unfold isModuleName at h
  obtain ⟨-, h⟩ := Bool.and_eq_true_iff.1 h
  split at h
  · rename_i single hsegments
    rw [hsegments, String.intercalate_singleton] at hjoin
    simp only [Bool.and_eq_true, bne_iff_ne] at h
    have hsingle : IsSingleName single := ⟨h.1.1, h.1.2, h.2, hslash single (by simp [hsegments])⟩
    exact .inl (hjoin ▸ hsingle)
  · rename_i first single hsegments
    rw [hsegments, String.intercalate_cons_of_ne_nil (by simp), String.intercalate_singleton] at hjoin
    simp only [Bool.and_eq_true, bne_iff_ne, decide_eq_true_eq] at h
    obtain ⟨⟨hscope, hlong⟩, ⟨hempty, hdot⟩, hdotdot⟩ := h
    have hfirst := hslash first (by simp [hsegments])
    obtain ⟨scope, hlist⟩ : ∃ scope, first.toList = '@' :: scope := by
      cases hlist : first.toList with
      | nil => simp [hlist] at hscope
      | cons c scope =>
        obtain rfl : c = '@' := by simpa [hlist] using hscope
        exact ⟨scope, rfl⟩
    have hne : scope ≠ [] := by
      rintro rfl
      rw [← String.length_toList, hlist] at hlong
      exact absurd hlong (by decide)
    rw [hlist, List.mem_cons, not_or] at hfirst
    refine .inr ⟨scope, single, hne, hfirst.2,
      ⟨hempty, hdot, hdotdot, hslash single (by simp [hsegments])⟩, ?_⟩
    rw [← hjoin, ← hlist, String.ofList_toList]
  · simp at h

/-- A text that starts with `@` is a single name unless it has a slash. -/
theorem isSingleName_scope {scope : List Char} (h : '/' ∉ scope) :
    IsSingleName (String.ofList ('@' :: scope)) := by
  have hother {text : String} (hat : '@' ∉ text.toList) : String.ofList ('@' :: scope) ≠ text := by
    rintro rfl
    simp at hat
  refine ⟨hother (by decide), hother (by decide), hother (by decide), ?_⟩
  simpa using h

/-- A package name makes no detours. -/
theorem isNormal_of_isModuleName {name : String} (h : isModuleName name = true) :
    Path.IsNormal name := by
  rcases isModuleName_cases h with hsingle | ⟨scope, single, -, hfree, hsingle, rfl⟩
  · exact Path.isNormal_single hsingle
  · exact (Path.isNormal_single (isSingleName_scope hfree)).slash (Path.isNormal_single hsingle)

theorem typesName_of_single {rest : List Char} (h : '/' ∉ rest) :
    typesName (String.ofList ('@' :: rest)) = String.ofList rest := by
  simp only [typesName, String.toList_ofList, Text.span_ne_of_notMem h]

theorem typesName_of_scoped {scope : List Char} (h : '/' ∉ scope) (single : String) :
    typesName (String.ofList ('@' :: scope) ++ "/" ++ single) =
      String.ofList scope ++ "__" ++ single := by
  have hlist : (String.ofList ('@' :: scope) ++ "/" ++ single).toList =
      '@' :: (scope ++ '/' :: single.toList) := by
    simp
  simp only [typesName, hlist, Text.span_ne_append h, String.ofList_toList]

/-- Types are kept under the name of the package, without a leading `@` and with its slash written as
two underscores. -/
theorem typesName_cases {name : String} (h : isModuleName name = true) :
    (IsSingleName name ∧ name.toList.head? ≠ some '@' ∧ typesName name = name) ∨
    (∃ rest, '/' ∉ rest ∧ name = String.ofList ('@' :: rest) ∧ typesName name = String.ofList rest) ∨
    ∃ scope single, '/' ∉ scope ∧ IsSingleName single ∧
      name = String.ofList ('@' :: scope) ++ "/" ++ single ∧
      typesName name = String.ofList scope ++ "__" ++ single := by
  rcases isModuleName_cases h with hsingle | ⟨scope, single, -, hfree, hsingle, rfl⟩
  · by_cases hat : name.toList.head? = some '@'
    · obtain ⟨rest, hlist⟩ := List.head?_eq_some_iff.1 hat
      have hname : name = String.ofList ('@' :: rest) := by rw [← hlist, String.ofList_toList]
      have hfree : '/' ∉ rest := by
        have hslash := hsingle.no_slash
        rw [hlist, List.mem_cons, not_or] at hslash
        exact hslash.2
      exact .inr (.inl ⟨rest, hfree, hname, hname ▸ typesName_of_single hfree⟩)
    · refine .inl ⟨hsingle, hat, ?_⟩
      unfold typesName
      split
      · rename_i rest hlist
        simp [hlist] at hat
      · rfl
  · exact .inr (.inr ⟨scope, single, hfree, hsingle, rfl, typesName_of_scoped hfree single⟩)

/-- Types are kept under a single segment, also those of a package with a scope. -/
theorem no_slash_typesName {name : String} (h : isModuleName name = true) :
    '/' ∉ (typesName name).toList := by
  rcases typesName_cases h with ⟨hsingle, -, htypes⟩ | ⟨rest, hfree, -, htypes⟩ |
      ⟨scope, single, hfree, hsingle, -, htypes⟩
  · rw [htypes]
    exact hsingle.no_slash
  · rwa [htypes, String.toList_ofList]
  · simp [htypes, hfree, hsingle.no_slash]

/-! ## Where candidates lie -/

/-- The candidates of a package, segment by segment: the file of its types and two of its own. -/
theorem packageCandidates_eq (dependencyDir name : String) :
    packageCandidates dependencyDir name =
      (dependencyDir ++ "/" ++ "@types" ++ "/" ++ typesName name ++ "/" ++ "index.d.ts") ::
        ["index.d.ts", "index.js"].map fun file => dependencyDir ++ "/" ++ name ++ "/" ++ file := by
  have htypes : dependencyDir ++ "/@types/" ++ typesName name ++ "/index.d.ts" =
      dependencyDir ++ "/" ++ "@types" ++ "/" ++ typesName name ++ "/" ++ "index.d.ts" := by
    simp [← String.toList_inj]
  have hfile (rest : String) : dependencyDir ++ "/" ++ name ++ "/" ++ rest =
      dependencyDir ++ "/" ++ name ++ ("/" ++ rest) := String.append_assoc
  simp [packageCandidates, htypes, hfile]

section Candidates

variable {dependencyDir name : String} (hdir : IsSingleName dependencyDir)
include hdir

/-- A file of the package itself. -/
theorem isNormal_packageFile (hname : isModuleName name = true) {file : String}
    (hfile : IsSingleName file) : Path.IsNormal (dependencyDir ++ "/" ++ name ++ "/" ++ file) :=
  ((Path.isNormal_single hdir).slash (isNormal_of_isModuleName hname)).slash
    (Path.isNormal_single hfile)

/-- Below the dependency directory only `..` could lead out of it. -/
theorem IsSingleName.exists_foldl_step_eq {segments : List OsText}
    (hsegments : (".." : OsText) ∉ segments) (f : Folded) :
    ∃ rest, ((dependencyDir : OsText) :: segments).foldl Folded.step f =
      { f with names := f.names ++ (dependencyDir : OsText) :: rest } := by
  obtain ⟨rest, hrest⟩ := Folded.exists_foldl_step_eq hsegments (f.step dependencyDir)
  refine ⟨rest, ?_⟩
  rw [List.foldl_cons, hrest, Folded.step_name (isSingleName_iff.1 hdir)]
  simp

/-- The types of `@..` are looked for in the dependency directory itself, those of other packages
below it. -/
theorem IsSingleName.exists_foldl_types_eq (types : String) (f : Folded) :
    ∃ rest, ([dependencyDir, "@types", types, "index.d.ts"].map OsText.ofText).foldl Folded.step f =
      { f with names := f.names ++ (dependencyDir : OsText) :: rest } := by
  by_cases hup : types = ".."
  · refine ⟨["index.d.ts"], ?_⟩
    have hkept : IsEntryName "@types" ∧ IsEntryName "index.d.ts" := by decide
    rw [hup]
    simp only [List.map_cons, List.map_nil, List.foldl_cons, List.foldl_nil,
      Folded.step_name (isSingleName_iff.1 hdir), Folded.step_name hkept.1]
    rw [show ∀ g : Folded, g.step (".." : OsText) = g.up from fun g => rfl, Folded.step_name hkept.2]
    simp [Folded.up]
  · have hsegments : (".." : OsText) ∉ ["@types", types, "index.d.ts"].map OsText.ofText := by
      rw [List.mem_map]
      rintro ⟨segment, hsegment, heq⟩
      obtain rfl := OsText.ofText_inj.1 heq
      simp [Ne.symm hup] at hsegment
    exact hdir.exists_foldl_step_eq hsegments f

/-- Every candidate of a package folds to a path through the dependency directory. -/
theorem exists_ofPath_join_candidate {candidate : String} (hname : isModuleName name = true)
    (h : candidate ∈ packageCandidates dependencyDir name) (root : OsText) :
    ∃ rest, Folded.ofPath (Path.join root candidate) =
      { Folded.ofPath root with
        names := (Folded.ofPath root).names ++ (dependencyDir : OsText) :: rest } := by
  have habsolute := isAbsolute_of_mem_packageCandidates hdir.ne_empty
    (isSingleName_iff.1 hdir).not_isAbsolute h
  have hfirst := Text.segments_eq_singleton hdir.no_slash
  rw [packageCandidates_eq] at h
  rcases List.mem_cons.1 h with rfl | hfile
  · have htypes := Text.segments_eq_singleton (no_slash_typesName hname)
    rw [Path.ofPath_join_relative habsolute, OsText.segments_ofText, Text.segments_slash,
      Text.segments_slash, Text.segments_slash, hfirst, htypes]
    exact hdir.exists_foldl_types_eq (typesName name) _
  · obtain ⟨file, hmem, rfl⟩ := List.mem_map.1 hfile
    have hfiles : ∀ file ∈ ["index.d.ts", "index.js"], IsSingleName file := by decide
    refine ⟨(Text.segments name ++ Text.segments file).map OsText.ofText, ?_⟩
    rw [(isNormal_packageFile hdir hname (hfiles file hmem)).ofPath_join, Text.segments_slash,
      Text.segments_slash, hfirst, List.append_assoc, List.singleton_append, List.map_cons]

end Candidates

/-! ## What walks leave out -/

variable {searcher : Searcher} {root : OsText}

/-- A segment of a path without backslashes is one of its parts. -/
theorem isPart_of_mem_segments {segment path : String} (hsegment : '\\' ∉ segment.toList)
    (h : segment ∈ Text.segments path) : IsPart segment path := by
  have hpiece := Text.mem_pieces_iff.1 h
  refine hpiece.mono (fun c hc => ?_) fun c hc => ?_
  · rw [beq_iff_eq] at hc
    rw [isSeparator, hc]
    rfl
  · have hback : c ≠ '\\' := fun heq => hsegment (heq ▸ hc)
    have hslash : c ≠ '/' := fun heq => Text.no_slash_of_mem_segments h (heq ▸ hc)
    simp [isSeparator, hback, hslash]

/-- What a walk lists folds to a path that does not pass through the dependency directory.  The walk has
left out that name; another one that is shown like it is left out of the result by its name. -/
theorem IsListed.exists_ofPath_join {path : String} (h : IsListed searcher root path)
    (hdecoded : '\\' ∉ searcher.config.scan.dependencyDir.toList ∨
      ∀ name, searcher.world.tree.top.HasName name → name.IsUtf8) :
    ∃ names : List String, searcher.config.scan.dependencyDir ∉ names ∧
      Folded.ofPath (Path.join root path) =
        { Folded.ofPath root with
          names := (Folded.ofPath root).names ++ names.map OsText.ofText } := by
  have hkept := (Bool.or_eq_false_iff.1 h.not_excluded).1
  obtain ⟨pattern, walk, hwalk, hpath⟩ := h
  obtain ⟨ways, hways, hfiles⟩ := Walk.exists_ways_of_walkFiles hwalk
  rw [hfiles] at hpath
  obtain ⟨way, hway, rfl⟩ := List.mem_map.1 hpath
  have hne := hways.ne_nil way hway
  have hnames := hways.isName hway
  refine ⟨Text.segments (Walk.shown way), fun hmem => ?_,
    (Walk.isNormal_shown hne hnames).ofPath_join root⟩
  rcases hdecoded with hfree | htext
  · rw [isExcludedName_iff.2 (isPart_of_mem_segments hfree hmem)] at hkept
    cases hkept
  · rw [Walk.textSegments_shown hne hnames] at hmem
    obtain ⟨name, hname, heq⟩ := List.mem_map.1 hmem
    have hutf8 : (name.lossy : OsText) = name := htext name (hways.hasName way hway name hname)
    rw [heq] at hutf8
    exact hways.unpruned way hway (hutf8 ▸ hname)

/-- **Packages are apart from what walks list.**  Where the dependency directory is a single name, no
file by which a package is found lies where a file lies that is found by name, whatever the scan shows
or follows.  Only a name with a backslash could be taken for another one that is not UTF-8. -/
theorem findExternal_apart_from_findByName (hdir : IsSingleName searcher.config.scan.dependencyDir)
    (hdecoded : '\\' ∉ searcher.config.scan.dependencyDir.toList ∨
      ∀ name, searcher.world.tree.top.HasName name → name.IsUtf8)
    {name candidate pattern path : String}
    (hcandidate : candidate ∈ (findExternal searcher root name).value.value)
    (hpath : path ∈ (findByName searcher root pattern).value.value) :
    Folded.ofPath (Path.join root candidate) ≠ Folded.ofPath (Path.join root path) := by
  intro hsame
  cases hname : isModuleName name with
  | false =>
    have hfailed : (findExternal searcher root name).value = .failed := by
      simp [findExternal, hname]
    rw [hfailed] at hcandidate
    cases hcandidate
  | true =>
    rw [findExternal_value hname] at hcandidate
    have hmem : candidate ∈ packageCandidates searcher.config.scan.dependencyDir name :=
      (List.mem_filter.1 hcandidate).1
    obtain ⟨rest, hthrough⟩ := exists_ofPath_join_candidate hdir hname hmem root
    obtain ⟨names, hunpruned, hnames⟩ := (mem_findByName hpath).exists_ofPath_join hdecoded
    rw [hthrough, hnames] at hsame
    have hcons : (searcher.config.scan.dependencyDir : OsText) :: rest = names.map OsText.ofText :=
      List.append_cancel_left (Folded.mk.inj hsame).2.2
    have hmem : (searcher.config.scan.dependencyDir : OsText) ∈ names.map OsText.ofText :=
      hcons ▸ List.mem_cons_self
    obtain ⟨name, hname, heq⟩ := List.mem_map.1 hmem
    exact hunpruned (OsText.ofText_inj.1 heq ▸ hname)

/-- The name of another directory than the dependency directory is shown like its name. -/
example :
    let world := (World.ofEntries [("/a\\\ufffd/p/index.js", .text "")]).put
      ("/a\\" ++ ⟨[0xff]⟩ ++ "/p/index.js") (.text "")
    let searcher : Searcher := ⟨world, { scan := { dependencyDir := "a\\\ufffd" } }⟩
    (findExternal searcher "/" "p").value.value = ["a\\\ufffd/p/index.js"] ∧
      (findByName searcher "/" "**/*").value.value = ["a\\\ufffd/p/index.js"] := by
  decide +kernel

/-- A package that is installed in two places. -/
def packageSample (dependencyDir : String) : Searcher where
  world := .ofEntries [("/lib/p/index.js", .text ""), ("/vendor/pkgs/p/index.js", .text "")]
  config := { scan := { dependencyDir } }

theorem findExternal_apart_from_findByName_packageSample :
    (IsSingleName "lib" ∧ '\\' ∉ "lib".toList) ∧
      "lib/p/index.js" ∈ (findExternal (packageSample "lib") "/" "p").value.value ∧
      "vendor/pkgs/p/index.js" ∈ (findByName (packageSample "lib") "/" "**/*").value.value ∧
      Folded.ofPath (Path.join "/" "lib/p/index.js") ≠
        Folded.ofPath (Path.join "/" "vendor/pkgs/p/index.js") := by
  have hdir : IsSingleName "lib" := ⟨by decide, by decide, by decide, by decide⟩
  have hcandidate : "lib/p/index.js" ∈ (findExternal (packageSample "lib") "/" "p").value.value := by
    decide +kernel
  have hpath : "vendor/pkgs/p/index.js" ∈
      (findByName (packageSample "lib") "/" "**/*").value.value := by
    decide +kernel
  have hfree : '\\' ∉ "lib".toList := by decide
  exact ⟨⟨hdir, hfree⟩, hcandidate, hpath,
    findExternal_apart_from_findByName hdir (.inl hfree) hcandidate hpath⟩

/-- A dependency directory within another directory is searched for packages and walked as well. -/
theorem findExternal_meets_findByName_packageSample :
    (findExternal (packageSample "vendor/pkgs") "/" "p").value =
        ⟨["vendor/pkgs/p/index.js"], .complete⟩ ∧
      (findByName (packageSample "vendor/pkgs") "/" "vendor/**").value =
        ⟨["vendor/pkgs/p/index.js"], .complete⟩ := by
  decide +kernel

end CodeSearch
