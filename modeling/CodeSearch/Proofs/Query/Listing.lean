import CodeSearch.Proofs.Glob
import CodeSearch.Proofs.Query.Basic
import CodeSearch.Proofs.Walk
import CodeSearch.Proofs.Walk.Ways

/-!
# Listing a whole tree

Looking for `**/*` in a plain scan lists the tree: `IsListing` says which ways belong to the listing
and how they are ordered, in terms of the names in the tree and the rights of the user alone.  The
listing is complete exactly if every directory on its ways can be opened; a root may be spelled so long
that this is not the case below it, and it may be closed to the user itself.
-/

namespace CodeSearch

/-- The ways of the listing of a directory that is at `root`: all that lead through directories that can
be opened to something that is no directory, also behind links, where no name is that of the dependency
directory.  Every way is there once, and they are sorted by the bytes of their names. -/
structure IsListing (world : World) (dependencyDir : String) (root : OsText) (directory : Node)
    (ways : List (List OsText)) : Prop where
  mem_iff : ∀ way, way ∈ ways ↔ ∃ above target,
    LeadsTo root directory way above target ∧ target.isDir = false ∧
      (dependencyDir : OsText) ∉ way ∧ isExcludedName dependencyDir (Walk.shown way) = false ∧
      world.isDir (Path.join root (Walk.shown way)) = false
  sorted : ways.Pairwise (· < ·)

namespace Walk

variable {world : World} {scan : ScanConfig} {root : OsText} {access : Access}
  {entries : List (OsText × Node)}

/-- The way to the file at a stop; none if it is excluded. -/
def Stop.way? (world : World) (dependencyDir : String) (root : OsText) (stop : Stop) :
    Option (List OsText) :=
  if stop.isEntry = true ∧
      isExcludedCandidate world dependencyDir root (shown stop.names) = false then
    some stop.names
  else none

theorem Stop.way?_eq_some_iff {dependencyDir : String} {stop : Stop} {way : List OsText} :
    stop.way? world dependencyDir root = some way ↔
      stop = ⟨way, true⟩ ∧ isExcludedCandidate world dependencyDir root (shown way) = false := by
  obtain ⟨names, isEntry⟩ := stop
  unfold Stop.way?
  constructor
  · intro h
    split at h
    · rename_i hstop
      obtain rfl := Option.some.inj h
      exact ⟨congrArg (Stop.mk names) hstop.1, hstop.2⟩
    · cases h
  · rintro ⟨⟨⟩, hkept⟩
    exact if_pos ⟨rfl, hkept⟩

/-- `**/*` selects everything that a walk yields and that is not excluded. -/
theorem Stop.file?_item {stop : Stop} (hne : stop.names ≠ [])
    (hnames : ∀ name ∈ stop.names, IsName name) :
    (stop.item root).file? world scan root ⟨[.recursivePrefix, .zeroOrMore]⟩ =
      (stop.way? world scan.dependencyDir root).map shown := by
  unfold Stop.item Stop.way?
  cases stop.isEntry with
  | false => rfl
  | true =>
    simp only [if_true, Item.file?, Path.relativePath_extend hne hnames, Option.filter_some,
      Glob.accepts_allFiles, true_and, Bool.true_and, Bool.not_eq_true', shown]
    split <;> rfl

theorem Stop.problem?_item (root : OsText) (stop : Stop) :
    ((stop.item root).problem?).isNone = stop.isEntry := by
  unfold Stop.item
  cases stop.isEntry <;> rfl

theorem isName_of_mem_listStops (hdirectory : (Node.dir access entries).WellFormed)
    {dependencyDir : OsText} {stop : Stop} (h : stop ∈ listStops dependencyDir access root entries) :
    ∀ name ∈ stop.names, IsName name := by
  obtain ⟨names, isEntry⟩ := stop
  obtain ⟨-, last, target, leads, -⟩ := mem_listStops_iff.1 h
  exact leads.isName hdirectory

theorem items_of_isPlain (h : IsPlain scan) {place : Place} (hplace : place.node = .dir access entries) :
    items world scan root place =
      (listStops scan.dependencyDir access root entries).map (Stop.item root) := by
  let position : Position :=
    { place, path := root, levels := [], user := none, opened := [(place.names, root)] }
  have hlist : listItems world scan (linkItems world scan (dirCount world.tree.top + 1)) position
      entries = _ := listItems_eq h _ ⟨rfl, rfl⟩ entries
  simp only [position, hplace] at hlist
  unfold items
  simp only [h.unfiltered, hplace]
  exact hlist

/-- The ways of what looking for `**/*` in a plain scan finds. -/
def plainWays (world : World) (scan : ScanConfig) (root : OsText) (access : Access)
    (entries : List (OsText × Node)) : List (List OsText) :=
  (listStops scan.dependencyDir access root entries).filterMap
    (Stop.way? world scan.dependencyDir root)

/-- What looking for `**/*` in a plain scan finds. -/
def plain (world : World) (scan : ScanConfig) (root : OsText) (access : Access)
    (entries : List (OsText × Node)) : Walk where
  files := (plainWays world scan root access entries).map shown
  problems := (listStops scan.dependencyDir access root entries).filterMap
    fun stop => (stop.item root).problem?

theorem walkFiles_allFiles (h : IsPlain scan) (hinput : isStandardInput root = false)
    {place : Place} (hroot : world.resolve root = .ok place)
    (hplace : place.node = .dir access entries) (hlists : access.lists = true) :
    walkFiles world scan root allFiles = .ok (plain world scan root access entries) := by
  have hdirectory : (Node.dir access entries).WellFormed :=
    hplace ▸ World.wellFormed_of_resolve hroot
  have hdir : rootPlace world root = .ok place :=
    rootPlace_eq_ok_iff.2 ⟨hroot, access, entries, hplace, hlists⟩
  -- the path of a stop leads back to its names, however the root is spelled
  have hfiles : (listStops scan.dependencyDir access root entries).filterMap
        (fun stop => (stop.item root).file? world scan root ⟨[.recursivePrefix, .zeroOrMore]⟩) =
      (plainWays world scan root access entries).map shown := by
    rw [plainWays, List.map_filterMap]
    refine List.filterMap_congr fun stop hstop => ?_
    exact Stop.file?_item (names_ne_nil_of_mem_listStops hstop)
      (isName_of_mem_listStops hdirectory hstop)
  rw [walkFiles_eq Glob.compileGlob_allFiles, hdir]
  show Except.ok (selected world scan root _ place) = _
  unfold selected
  rw [hinput, if_neg Bool.false_ne_true, items_of_isPlain h hplace]
  simp only [List.filterMap_map]
  exact congrArg (fun files => Except.ok (Walk.mk files _)) hfiles

variable (world scan root) in
/-- The ways of a plain walk are those of the listing. -/
theorem isListing_plainWays (hdirectory : (Node.dir access entries).WellFormed) :
    IsListing world scan.dependencyDir root (.dir access entries)
      (plainWays world scan root access entries) where
  mem_iff way := by
    rw [plainWays, List.mem_filterMap]
    constructor
    · rintro ⟨stop, hstop, hway⟩
      obtain ⟨rfl, hkept⟩ := Stop.way?_eq_some_iff.1 hway
      obtain ⟨hname, hdir⟩ := Bool.or_eq_false_iff.1 hkept
      obtain ⟨hdep, last, target, leads, hat⟩ := mem_listStops_iff.1 hstop
      exact ⟨last, target, leads, Stop.at?_eq_some_true_iff.1 hat, hdep, hname, hdir⟩
    · rintro ⟨last, target, leads, htarget, hdep, hname, hdir⟩
      refine ⟨⟨way, true⟩, ?_, ?_⟩
      · exact mem_listStops_iff.2 ⟨hdep, last, target, leads, Stop.at?_eq_some_true_iff.2 htarget⟩
      · exact Stop.way?_eq_some_iff.2 ⟨rfl, Bool.or_eq_false_iff.2 ⟨hname, hdir⟩⟩
  sorted := by
    have hsorted : (listStops scan.dependencyDir access root entries).Pairwise (·.names < ·.names) := by
      cases hdirectory with
      | dir hnames hsorted hchildren => exact listStops_sorted _ _ _ hchildren hsorted
    rw [plainWays, List.pairwise_filterMap]
    refine hsorted.imp fun hlt way hway other hother => ?_
    obtain ⟨rfl, -⟩ := Stop.way?_eq_some_iff.1 hway
    obtain ⟨rfl, -⟩ := Stop.way?_eq_some_iff.1 hother
    exact hlt

/-- A plain walk has no problems exactly if every directory that names lead to can be opened. -/
theorem plain_problems_eq_nil_iff :
    (plain world scan root access entries).problems = [] ↔
      ∀ names above inner children,
        LeadsTo root (.dir access entries) names above (.dir inner children) →
          (scan.dependencyDir : OsText) ∉ names → Opens above inner (Path.extend root names) := by
  unfold plain
  rw [List.filterMap_eq_nil_iff, ← all_isEntry_iff]
  refine forall₂_congr fun stop _ => ?_
  rw [← Stop.problem?_item root, Option.isNone_iff_eq_none]

end Walk

/-- The names on the ways of a listing are admissible. -/
theorem IsListing.isName {world : World} {dependencyDir : String} {root : OsText} {directory : Node}
    {ways : List (List OsText)} (h : IsListing world dependencyDir root directory ways)
    (hdirectory : directory.WellFormed) : ∀ way ∈ ways, way ≠ [] ∧ ∀ name ∈ way, IsName name := by
  intro way hway
  obtain ⟨above, target, leads, -⟩ := (h.mem_iff way).1 hway
  exact ⟨leads.ne_nil, leads.isName hdirectory⟩

/-- What looking for `**/*` in a plain scan yields. -/
theorem findByName_allFiles_value {searcher : Searcher} {root : OsText} {access : Access}
    {entries : List (OsText × Node)} (hplain : Walk.IsPlain searcher.config.scan)
    (hinput : isStandardInput root = false)
    (hroot : searcher.world.stat root = .ok (.dir access entries)) (hlists : access.lists = true) :
    (findByName searcher root "**/*").value =
      .withSkipped (Walk.plain searcher.world searcher.config.scan root access entries).files
        (Walk.plain searcher.world searcher.config.scan root access entries).problems.length := by
  obtain ⟨place, hresolve, hplace⟩ := World.stat_eq_ok_iff.1 hroot
  exact findByName_value_of_ok searcher root
    (Walk.walkFiles_allFiles hplain hinput hresolve hplace hlists)

/-- A root that cannot be listed has no listing. -/
theorem findByName_of_unlistable {searcher : Searcher} {root : OsText} {access : Access}
    {entries : List (OsText × Node)} (hroot : searcher.world.stat root = .ok (.dir access entries))
    (hlists : access.lists = false) : (findByName searcher root "**/*").value = ⟨[], .failed⟩ := by
  obtain ⟨place, hresolve, hplace⟩ := World.stat_eq_ok_iff.1 hroot
  have hclosed : rootPlace searcher.world root = .error (.ofOs root .permissionDenied) := by
    simp [rootPlace, hresolve, hplace, hlists]
  have hwalk : searcher.enumerate root allFiles = .error (.ofOs root .permissionDenied) := by
    rw [Searcher.enumerate, Walk.walkFiles_eq Glob.compileGlob_allFiles, hclosed]
    rfl
  exact findByName_value_of_error searcher root hwalk

/-- In a plain scan, looking for `**/*` lists the tree, completely exactly if every directory in it can
be opened.  The root is any spelling of a directory that is not taken for the standard input; one that
cannot be listed is a failure.  Where the names of the listing are UTF-8, no path is listed twice, and the
paths are sorted by the bytes of their segments. -/
theorem findByName_lists_tree {searcher : Searcher} {root : OsText} {access : Access}
    {entries : List (OsText × Node)} (hplain : Walk.IsPlain searcher.config.scan)
    (hinput : isStandardInput root = false)
    (hroot : searcher.world.stat root = .ok (.dir access entries)) :
    let listing := (findByName searcher root "**/*").value
    (access.lists = false → listing = ⟨[], .failed⟩) ∧
    (access.lists = true →
      (∃ ways, IsListing searcher.world searcher.config.scan.dependencyDir root (.dir access entries)
          ways ∧ listing.value = ways.map Walk.shown ∧
        ((∀ way ∈ ways, ∀ name ∈ way, name.IsUtf8) → listing.value.Nodup ∧
          listing.value.Pairwise fun path other : String =>
            (path : OsText).segments < (other : OsText).segments)) ∧
      listing.status ≠ .failed ∧
      (listing.status = .complete ↔
        ∀ names above inner children,
          LeadsTo root (.dir access entries) names above (.dir inner children) →
            (searcher.config.scan.dependencyDir : OsText) ∉ names →
              Opens above inner (Path.extend root names))) := by
  refine ⟨findByName_of_unlistable hroot, fun hlists => ?_⟩
  obtain ⟨place, hresolve, hplace⟩ := World.stat_eq_ok_iff.1 hroot
  have hdirectory : (Node.dir access entries).WellFormed :=
    hplace ▸ World.wellFormed_of_resolve hresolve
  have hlisting := Walk.isListing_plainWays searcher.world searcher.config.scan root hdirectory
  rw [findByName_allFiles_value hplain hinput hroot hlists, Outcome.value_withSkipped,
    Outcome.status_withSkipped]
  refine ⟨⟨_, hlisting, rfl, fun htext => ?_⟩, ?_, ?_⟩
  · have hsorted := Walk.pairwise_shown (hlisting.isName hdirectory) htext hlisting.sorted
    exact ⟨Walk.nodup_of_pairwise_segments hsorted, hsorted⟩
  · exact ScanStatus.ofSkipped_ne_failed _
  · rw [ScanStatus.ofSkipped_eq_complete_iff, List.length_eq_zero_iff,
      Walk.plain_problems_eq_nil_iff]

/-- Two names that are shown alike, and a directory that cannot be listed. -/
example :
    let world := ((World.ofEntries [("/r/locked/a.ts", .text ""), ("/r/locked", .dir ⟨false, true⟩)]).put
      ("/r/b" ++ ⟨[0xfe]⟩) (.text "")).put ("/r/b" ++ ⟨[0xff]⟩) (.text "")
    (findByName ⟨world, {}⟩ "/r" "**/*").value = ⟨["b\ufffd", "b\ufffd"], .incomplete 1⟩ ∧
      (findByName ⟨world, {}⟩ "/r/locked" "**/*").value = ⟨[], .failed⟩ := by
  decide +kernel

/-- A directory with a link to a directory, one to nothing and one to a file, an entry that is hidden,
one that is excluded by its name, and a dependency directory. -/
def listingSample : Searcher where
  world := .ofEntries [("/src/b/.env", .text ""), ("/src/b/c.ts", .text ""),
    ("/src/b/lib", .text ""), ("/src/d", .link "b"), ("/src/e", .link "gone"),
    ("/src/f", .link "b/c.ts"), ("/src/a\\lib", .text ""), ("/src/lib/x.ts", .text "")]
  config := { scan := { dependencyDir := "lib" } }

theorem findByName_lists_tree_listingSample :
    Walk.IsPlain listingSample.config.scan ∧ isStandardInput "src/b/..//." = false ∧
      ∃ access entries, listingSample.world.stat "src/b/..//." = .ok (.dir access entries) ∧
        access.lists = true ∧
        ∃ ways, IsListing listingSample.world "lib" "src/b/..//." (.dir access entries) ways ∧
          ways.map Walk.shown = ["b/.env", "b/c.ts", "e", "f"] := by
  have hplain : Walk.IsPlain listingSample.config.scan := ⟨rfl, rfl, rfl⟩
  have hinput : isStandardInput "src/b/..//." = false := by decide
  obtain ⟨hdir, hvalue, hrights⟩ : listingSample.world.isDir "src/b/..//." = true ∧
      (findByName listingSample "src/b/..//." "**/*").value.value = ["b/.env", "b/c.ts", "e", "f"] ∧
      (listingSample.world.stat "src/b/..//.").map (·.access.lists) = .ok true := by decide +kernel
  obtain ⟨access, entries, hroot⟩ := World.isDir_eq_true_iff.1 hdir
  have hlists : access.lists = true := by
    rw [hroot] at hrights
    exact Except.ok.inj hrights
  refine ⟨hplain, hinput, access, entries, hroot, hlists, ?_⟩
  obtain ⟨⟨ways, hways, hlisting, -⟩, -⟩ := (findByName_lists_tree hplain hinput hroot).2 hlists
  exact ⟨ways, hways, hlisting.symm.trans hvalue⟩

/-! ## A root with a long spelling -/

/-- A name of 128 bytes. -/
def longName : OsText := ⟨List.replicate 128 100⟩

theorem size_longName : longName.size = 128 := List.length_replicate

theorem longName_ne {name : OsText} (h : name.size < 128) : longName ≠ name := by
  rintro rfl
  exact absurd h (Nat.not_lt.2 size_longName.ge)

theorem isName_longName : IsName longName where
  ne_empty := longName_ne (by decide)
  ne_dot := longName_ne (by decide)
  ne_dotdot := longName_ne (by decide)
  no_slash hslash := absurd (List.eq_of_mem_replicate hslash) (by decide)
  no_nul hnul := absurd (List.eq_of_mem_replicate hnul) (by decide)
  short := Nat.le_trans size_longName.le (by decide)

/-- A directory that has one subdirectory with a file in it. -/
def longRootEntries : List (OsText × Node) :=
  [(longName, .dir {} [("a.ts", .file (some .empty) default)])]

theorem wellFormed_longRootEntries : (Node.dir {} longRootEntries).WellFormed := by
  refine .dir ?_ (List.pairwise_singleton _ _) ?_
  · simpa [longRootEntries] using isName_longName
  · have hfile : (Node.dir {} [("a.ts", .file (some .empty) default)]).WellFormed := by
      refine .dir ?_ (List.pairwise_singleton _ _) ?_
      · simpa using (by decide : IsName "a.ts")
      · simpa using Node.WellFormed.file
    simpa [longRootEntries] using hfile

theorem wellFormed_longRootSample :
    Node.WellFormed (.dir {} [("repo", .dir {} longRootEntries)]) := by
  refine .dir ?_ (List.pairwise_singleton _ _) ?_
  · simpa using (by decide : IsName "repo")
  · simpa using wellFormed_longRootEntries

/-- A file system with this directory at `/repo`. -/
def longRootSample : Searcher where
  world :=
    { tree :=
        { entries := [("repo", .dir {} longRootEntries)], wellFormed := wellFormed_longRootSample }
      workingDirectory := "/"
      now := default }
  config := {}

/-- A spelling of `/repo` below which no path with a long name can be opened. -/
def longRoot : OsText := Path.slashed "/repo" 3964

theorem segments_longRoot :
    longRoot.segments = ("" : OsText) :: ("repo" : OsText) :: List.replicate 3964 ("" : OsText) := by
  have hrepo : ("/repo" : OsText).segments = ([("" : OsText), "repo"] : List OsText) := by decide
  rw [longRoot, Path.segments_slashed, hrepo]
  rfl

theorem stat_longRoot : longRootSample.world.stat longRoot = .ok (.dir {} longRootEntries) := by
  have hne : longRoot ≠ "" := Path.slashed_ne_empty (by decide) _
  have hnul : (0 : UInt8) ∉ longRoot.bytes := fun h =>
    absurd (Path.mem_bytes_slashed h) (by decide)
  have hshort : longRoot.size < pathLimit := by
    rw [longRoot, Path.size_slashed]
    decide
  have habsolute : Path.isAbsolute longRoot = true :=
    (Path.isAbsolute_slashed (by decide) _).trans (by decide)
  have hstart : longRootSample.world.start longRoot = .ok longRootSample.world.top := by
    rw [World.start, habsolute]
    rfl
  refine World.stat_eq_ok_iff.2 ⟨⟨longRootSample.world.tree.top, [("repo", .dir {} longRootEntries)]⟩,
    World.resolve_eq_ok_iff.2 ⟨⟨hne, hnul, hshort⟩, _, hstart, ?_⟩, rfl⟩
  rw [segments_longRoot]
  show followSegments _ false _ _ = _
  rw [followSegments_empty rfl, followSegments_name rfl rfl (by decide) rfl rfl]
  exact followSegments_replicate rfl _

theorem isStandardInput_longRoot : isStandardInput longRoot = false := by
  rw [isStandardInput, segments_longRoot]
  rfl

/-- No relative path that starts with the long name can be opened. -/
theorem join_longName_long (rest : OsText) :
    pathLimit ≤ (Path.join longRoot (longName ++ rest)).size := by
  have habsolute : Path.isAbsolute (longName ++ rest) = false := by
    rw [Path.isAbsolute_append isName_longName.ne_empty, isName_longName.isEntryName.not_isAbsolute]
  have hsize : longRoot.size = 3969 := Path.size_slashed "/repo" 3964
  rw [show Path.join longRoot (longName ++ rest) = longRoot ++ (longName ++ rest) from
    Path.join_slashed habsolute "/repo" (by decide), OsText.size_append, OsText.size_append, hsize,
    size_longName, ← Nat.add_assoc]
  exact Nat.le_trans (by decide) (Nat.le_add_right _ _)

/-- Names lead from the long root to a file that is not excluded, and yet it is not found: the
directory that it is in has too long a path to be opened. -/
theorem findByName_misses_longRootSample :
    Walk.IsPlain longRootSample.config.scan ∧ isStandardInput longRoot = false ∧
      longRootSample.world.stat longRoot = .ok (.dir {} longRootEntries) ∧
      (∃ children file, (longName, Node.dir {} children) ∈ longRootEntries ∧
        (("a.ts" : OsText), file) ∈ children ∧ file.isDir = false) ∧
      (longRootSample.config.scan.dependencyDir : OsText) ∉ ([longName, "a.ts"] : List OsText) ∧
      isExcludedCandidate longRootSample.world longRootSample.config.scan.dependencyDir longRoot
        (Walk.shown [longName, "a.ts"]) = false ∧
      (findByName longRootSample longRoot "**/*").value = ⟨[], .incomplete 1⟩ := by
  have hplain : Walk.IsPlain longRootSample.config.scan := ⟨rfl, rfl, rfl⟩
  have hshown : (Walk.shown [longName, "a.ts"] : OsText) = longName ++ ("/a.ts" : OsText) := by
    decide +kernel
  have hdir : longRootSample.world.isDir (Path.join longRoot (Walk.shown [longName, "a.ts"])) = false := by
    rw [hshown]
    exact World.isDir_of_long (join_longName_long _)
  have hkept : isExcludedName longRootSample.config.scan.dependencyDir
      (Walk.shown [longName, "a.ts"]) = false := by
    decide +kernel
  have hname : longName ≠ ("node_modules" : OsText) := longName_ne (by decide)
  have hunpruned : ("node_modules" : OsText) ∉ ([longName, "a.ts"] : List OsText) := by
    rw [List.mem_cons, not_or]
    exact ⟨hname.symm, by decide⟩
  have hstops : Walk.listStops "node_modules" {} longRoot longRootEntries =
      [⟨[longName], false⟩] := by
    have hclosed : ¬ Opens {} {} (Path.join longRoot longName) := by
      intro hopens
      have hlong := join_longName_long ""
      rw [OsText.append_empty] at hlong
      exact absurd hopens.short (Nat.not_lt.2 hlong)
    simp [longRootEntries, Walk.listStops, Walk.nodeStops, hname, hclosed]
  refine ⟨hplain, isStandardInput_longRoot, stat_longRoot,
    ⟨_, _, List.mem_singleton.2 rfl, List.mem_singleton.2 rfl, rfl⟩, hunpruned, ?_, ?_⟩
  · rw [isExcludedCandidate, hkept, hdir]
    rfl
  · rw [findByName_allFiles_value hplain isStandardInput_longRoot stat_longRoot rfl]
    unfold Walk.plain Walk.plainWays
    rw [show longRootSample.config.scan.dependencyDir = "node_modules" from rfl, hstops]
    rfl

end CodeSearch
