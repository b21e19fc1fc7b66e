import CodeSearch.Proofs.Query.Ledger
import CodeSearch.Proofs.Text
import CodeSearch.Proofs.Tree

/-!
# What never appears in a result

A path reaches a result in one of three ways: some walk lists it, trying the candidates of an import
finds it, or it is a dependency as the source spells it.  `mem_run` tells them apart for every request.
The first two rule out directories and the dependency directory, the third only the latter.
-/

namespace CodeSearch

/-- Whether a character separates the parts of a name. -/
def isSeparator (c : Char) : Bool := c == '/' || c == '\\'

/-- A text stands in a path between two separators or the ends. -/
def IsPart (part path : String) : Prop := Text.IsPiece isSeparator part.toList path.toList

/-- A path is excluded by its name exactly when the dependency directory is one of its parts. -/
theorem isExcludedName_iff {dependencyDir path : String} :
    isExcludedName dependencyDir path = true ↔ IsPart dependencyDir path := by
  rw [isExcludedName, List.contains_iff_mem, nameParts]
  exact Text.mem_pieces_iff

/-- Some walk below the root lists a path. -/
def IsListed (searcher : Searcher) (root : OsText) (path : String) : Prop :=
  ∃ pattern walk, searcher.enumerate root pattern = .ok walk ∧ path ∈ walk.files

variable {searcher : Searcher} {root : OsText} {path : String}

/-- What a walk lists has passed the filter. -/
theorem IsListed.not_excluded (h : IsListed searcher root path) :
    isExcludedCandidate searcher.world searcher.config.scan.dependencyDir root path = false := by
  obtain ⟨pattern, walk, hwalk, hpath⟩ := h
  unfold Searcher.enumerate walkFiles at hwalk
  simp only [bind, Except.bind] at hwalk
  split at hwalk
  · cases hwalk
  · split at hwalk
    · cases hwalk
    · cases hwalk
      obtain ⟨item, -, hitem⟩ := List.mem_filterMap.1 hpath
      cases item with
      | problem text => cases hitem
      | entry shown =>
        obtain ⟨-, hkept⟩ := Option.filter_eq_some_iff.1 hitem
        simp only [Bool.and_eq_true, Bool.not_eq_true'] at hkept
        exact hkept.2

/-- What trying the candidates of an import finds is a file that is not excluded by its name. -/
theorem IsFound.not_excluded (h : IsFound searcher root path) :
    isExcludedCandidate searcher.world searcher.config.scan.dependencyDir root path = false := by
  obtain ⟨hname, node, hstat, hfile⟩ := h
  have hdir : searcher.world.isDir (Path.join root path) = false := by
    unfold World.isDir
    rw [hstat]
    cases node with
    | dir => cases hfile
    | _ => rfl
  unfold isExcludedCandidate
  rw [hdir, Bool.or_false]
  exact hname

/-! ## How paths reach results -/

theorem mem_findByName {pattern : String}
    (h : path ∈ (findByName searcher root pattern).value.value) : IsListed searcher root path := by
  cases hwalk : searcher.enumerate root pattern with
  | error e =>
    unfold findByName at h
    rw [hwalk] at h
    cases h
  | ok walk =>
    rw [findByName_value_of_ok _ _ hwalk] at h
    exact ⟨pattern, walk, hwalk, h⟩

theorem mem_scanFiles {operation : String} {keep? : String → Except SearchError Bool}
    {describe : SearchError → String}
    (h : path ∈ (scanFiles searcher root operation keep? describe).value.value) :
    IsListed searcher root path := by
  cases hwalk : searcher.enumerate root allFiles with
  | error e =>
    rw [scanFiles_value_of_error _ _ _ _ _ hwalk] at h
    cases h
  | ok walk =>
    rw [scanFiles_value_of_ok _ _ _ _ _ hwalk] at h
    exact ⟨allFiles, walk, hwalk, (List.mem_filter.1 h).1⟩

/-- Some scan of texts finds a path. -/
def IsTextHit (searcher : Searcher) (root : OsText) (path : String) : Prop :=
  ∃ holds, path ∈ (scanTexts searcher root holds).value.value

theorem IsTextHit.isListed (h : IsTextHit searcher root path) : IsListed searcher root path := by
  obtain ⟨holds, hpath⟩ := h
  exact mem_scanFiles hpath

theorem mem_findByRegex {pattern : String}
    (h : path ∈ (findByRegex searcher root pattern).value.value) :
    IsTextHit searcher root path := by
  unfold findByRegex at h
  split at h
  · cases h
  · exact ⟨_, h⟩

theorem mem_findApiUsage {endpoint : String}
    (h : path ∈ (findApiUsage searcher root endpoint).value.value) :
    IsTextHit searcher root path := by
  unfold findApiUsage at h
  dsimp only at h
  split at h
  · exact ⟨_, h⟩
  · cases h

theorem mem_findRecent {days : UInt64}
    (h : path ∈ (findRecent searcher root days).value.value) : IsListed searcher root path := by
  rw [findRecent_value] at h
  exact mem_scanFiles h

theorem mem_findRelatedTests {target : String}
    (h : path ∈ (findRelatedTests searcher root target).value.value) :
    IsListed searcher root path := by
  unfold findRelatedTests at h
  dsimp only at h
  split at h
  · split at h <;> cases h
  · split at h
    · cases h
    · exact mem_findByName h

/-- A path in the result of a query on a file is in the result for its text. -/
theorem mem_withImporter {file operation : String} {query : String → String → Logged Outcome}
    (h : path ∈ (withImporter searcher root file operation query).value.value) :
    ∃ importer text, readImporter searcher root file = .ok (importer, text) ∧
      path ∈ (query importer text).value.value := by
  unfold withImporter at h
  split at h
  · cases h
  · rename_i importer text hread
    exact ⟨importer, text, hread, h⟩

theorem mem_findImported {file : String}
    (h : path ∈ (findImported searcher root file).value.value) : IsFound searcher root path := by
  obtain ⟨importer, text, -, hpath⟩ := mem_withImporter h
  simp only [Logged.value_bind, Logged.value_pure, importedFiles_value,
    Outcome.value_withSkipped] at hpath
  obtain ⟨reference, -, hentry⟩ := List.mem_filterMap.1 hpath
  obtain ⟨resolved, -, before, candidate, after, -, -, rfl, hfound⟩ :=
    importedFile?_eq_some_iff.1 hentry
  exact hfound

theorem mem_findRelatedClasses {file : String}
    (h : path ∈ (findRelatedClasses searcher root file).value.value) :
    IsTextHit searcher root path ∨ IsFound searcher root path := by
  obtain ⟨importer, text, -, hpath⟩ := mem_withImporter h
  simp only [Logged.value_bind, Logged.value_pure, selectFiles_value, baseFiles_value,
    List.mem_eraseDups, List.mem_append] at hpath
  rcases hpath with himported | hbase
  · exact .inr (isAccepted_isResultFile_iff.1 (List.mem_filter.1 himported).2)
  · obtain ⟨extension, -, hscan⟩ := List.mem_flatMap.1 hbase
    exact .inl ⟨_, hscan⟩

theorem mem_findStyles {component : String}
    (h : path ∈ (findStyles searcher root component).value.value) : IsFound searcher root path := by
  by_cases hfailed : (sourceSearch searcher root component).value.status = .failed
  · rw [(findStyles_of_failed hfailed).1] at h
    cases h
  · rw [findStyles_value hfailed, Outcome.value_withSkipped, List.mem_flatMap] at h
    obtain ⟨source, -, hsource⟩ := h
    unfold stylesOf at hsource
    split at hsource
    · cases hsource
    · exact isAccepted_isResultFile_iff.1 (List.mem_filter.1 hsource).2

/-- What `findExternal` finds are regular files. -/
theorem mem_findExternal {name : String}
    (h : path ∈ (findExternal searcher root name).value.value) :
    searcher.probe root path = .ok true := by
  unfold findExternal at h
  dsimp only at h
  split at h
  · simp only [Logged.value_bind, Logged.value_pure, selectFiles_value,
      Outcome.value_withSkipped] at h
    have haccepted := (List.mem_filter.1 h).2
    cases hprobe : searcher.probe root path with
    | ok isFile => rw [hprobe, isAccepted_ok] at haccepted; rw [haccepted]
    | error e => rw [hprobe] at haccepted; cases haccepted
  · cases h

/-- What `findDependencies` lists is not excluded by its name. -/
theorem mem_findDependencies {file : String}
    (h : path ∈ (findDependencies searcher root file).value.value) :
    searcher.excludesName path = false := by
  obtain ⟨importer, text, -, hpath⟩ := mem_withImporter h
  simp only [Logged.value_bind, Logged.value_pure, Outcome.complete] at hpath
  obtain ⟨reference, -, hdependency⟩ := List.mem_filterMap.1 hpath
  unfold dependency? at hdependency
  split at hdependency
  · cases hdependency
  · simpa using (Option.filter_eq_some_iff.1 hdependency).2

/-- How a path got into a result. -/
theorem mem_run {request : Request} (h : path ∈ (request.run searcher root).value.value) :
    IsListed searcher root path ∨ IsFound searcher root path ∨
      (request.tool = .findDependencies ∧ searcher.excludesName path = false) ∨
      (request.tool = .findExternalDependency ∧ searcher.probe root path = .ok true) := by
  obtain ⟨tool, argument⟩ := request
  -- the cases are the tools, by the route that their results take
  cases tool with
  | findFilesByName => exact .inl (mem_findByName h)
  | findFilesByContent => exact .inl (mem_scanFiles h)
  | findFilesByRegex => exact .inl (mem_findByRegex h).isListed
  | findImportedFiles => exact .inr (.inl (mem_findImported h))
  | findDependencies => exact .inr (.inr (.inl ⟨rfl, mem_findDependencies h⟩))
  | findRelatedClasses => exact (mem_findRelatedClasses h).imp IsTextHit.isListed .inl
  | findStyleDependencies => exact .inr (.inl (mem_findStyles h))
  | findRelatedTests => exact .inl (mem_findRelatedTests h)
  | findComponentUsage => exact .inl (mem_scanFiles h)
  | findApiUsage => exact .inl (mem_findApiUsage h).isListed
  | findFunctionDefinition => exact .inl (mem_scanFiles h)
  | findRecentlyModifiedFiles => exact .inl (mem_findRecent h)
  | findExternalDependency => exact .inr (.inr (.inr ⟨rfl, mem_findExternal h⟩))

/-- A regular file is no directory. -/
theorem isDir_of_probe (h : searcher.probe root path = .ok true) :
    searcher.world.isDir (Path.join root path) = false := by
  unfold Searcher.probe Searcher.stat at h
  unfold World.isDir
  cases hstat : searcher.world.stat (Path.join root path) with
  | error e => rfl
  | ok node =>
    rw [hstat] at h
    cases node with
    | dir entries => cases h
    | _ => rfl

/-- **Exclusion invariant.**  Whatever is asked for, apart from installed packages, no part of a path in
the result is the dependency directory; and, apart from dependencies as the source spells them, no path
in the result denotes a directory below the root. -/
theorem run_value_avoids_excluded (searcher : Searcher) (root : OsText) (request : Request) :
    (request.tool ≠ .findExternalDependency →
      ∀ path ∈ (request.run searcher root).value.value,
        ¬ IsPart searcher.config.scan.dependencyDir path) ∧
    (request.tool ≠ .findDependencies →
      ∀ path ∈ (request.run searcher root).value.value,
        ¬ ∃ access entries, searcher.world.stat (Path.join root path) = .ok (.dir access entries)) := by
  have hname : ∀ path, isExcludedName searcher.config.scan.dependencyDir path = false →
      ¬ IsPart searcher.config.scan.dependencyDir path := by
    intro path hfalse hpart
    rw [isExcludedName_iff.2 hpart] at hfalse
    cases hfalse
  have hdir : ∀ path, searcher.world.isDir (Path.join root path) = false →
      ¬ ∃ access entries, searcher.world.stat (Path.join root path) = .ok (.dir access entries) := by
    intro path hfalse hdir
    rw [World.isDir_eq_true_iff.2 hdir] at hfalse
    cases hfalse
  constructor
  · intro htool path hpath
    refine hname path ?_
    rcases mem_run hpath with hlisted | hfound | ⟨-, hkept⟩ | ⟨hexternal, -⟩
    · exact (Bool.or_eq_false_iff.1 hlisted.not_excluded).1
    · exact (Bool.or_eq_false_iff.1 hfound.not_excluded).1
    · exact hkept
    · exact absurd hexternal htool
  · intro htool path hpath
    refine hdir path ?_
    rcases mem_run hpath with hlisted | hfound | ⟨hdependencies, -⟩ | ⟨-, hprobe⟩
    · exact (Bool.or_eq_false_iff.1 hlisted.not_excluded).2
    · exact (Bool.or_eq_false_iff.1 hfound.not_excluded).2
    · exact absurd hdependencies htool
    · exact isDir_of_probe hprobe

/-- A dependency directory, a link to it under another name, and a link to a file in it; links are
followed. -/
def exclusionSample : Searcher where
  world := .ofEntries [("/lib/x.ts", .text ""), ("/all", .link "/lib"), ("/own/lib", .link "/lib"),
    ("/own/y.ts", .link "/lib/x.ts")]
  config := { scan := { dependencyDir := "lib", followLinks := true } }

theorem run_value_avoids_excluded_exclusionSample :
    let request : Request := ⟨.findFilesByContent, ""⟩
    (request.tool ≠ .findExternalDependency ∧ request.tool ≠ .findDependencies) ∧
      ((request.run exclusionSample "/").value.value = ["all/x.ts", "own/y.ts"] ∧
        ¬ IsPart "lib" "own/y.ts" ∧
        ¬ ∃ access entries,
          exclusionSample.world.stat (Path.join "/" "own/y.ts") = .ok (.dir access entries)) := by
  intro request
  have hexternal : request.tool ≠ .findExternalDependency := by decide
  have hdependencies : request.tool ≠ .findDependencies := by decide
  have hvalue : (request.run exclusionSample "/").value.value = ["all/x.ts", "own/y.ts"] := by
    decide +kernel
  have hpath : "own/y.ts" ∈ (request.run exclusionSample "/").value.value := by
    rw [hvalue]
    decide
  obtain ⟨hname, hdir⟩ := run_value_avoids_excluded exclusionSample "/" request
  exact ⟨⟨hexternal, hdependencies⟩, hvalue, hname hexternal _ hpath, hdir hdependencies _ hpath⟩

end CodeSearch
