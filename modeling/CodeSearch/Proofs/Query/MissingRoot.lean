import CodeSearch.Proofs.Import
import CodeSearch.Proofs.Query.Ledger
import CodeSearch.Proofs.Tree

/-!
# Searching below a root that does not exist

A walk of a missing root cannot start, so whatever walks the tree fails and says why.  Two kinds of
requests do not start with a walk: a package is looked for at its candidates, where nothing is
expected to be, and the queries on a file read that file first, which may be there although the root
is not (`Request.LooksElsewhere`).  Neither of them finds a file below a missing root.
-/

namespace CodeSearch

/-- A request that is answered before a walk of the root is tried: one for a package with an
admissible name, or one on a file that can be read. -/
def Request.LooksElsewhere (searcher : Searcher) (root : OsText) : Request → Prop
  | ⟨.findExternalDependency, name⟩ => isModuleName name = true
  | ⟨.findImportedFiles, file⟩ | ⟨.findDependencies, file⟩ | ⟨.findRelatedClasses, file⟩ =>
    ∃ read, readImporter searcher root file = .ok read
  | _ => False

variable {searcher : Searcher} {root : OsText}

theorem World.exists?_eq_false_iff {world : World} {path : OsText} :
    world.exists? path = false ↔ ∃ e, world.stat path = .error e := by
  unfold World.exists?
  cases world.stat path <;> simp

/-! ## Requests that walk -/

/-- A walk of a missing root cannot start. -/
theorem enumerate_of_missing (hroot : searcher.world.exists? root = false) (pattern : String) :
    ∃ e, searcher.enumerate root pattern = .error e := by
  obtain ⟨e, hstat⟩ := World.exists?_eq_false_iff.1 hroot
  have hresolve : searcher.world.resolve root = .error e := by
    unfold World.stat at hstat
    cases hresolve : searcher.world.resolve root with
    | ok place => simp [hresolve, Except.map] at hstat
    | error cause => simpa [hresolve, Except.map] using hstat
  unfold Searcher.enumerate walkFiles
  cases compileGlob pattern with
  | error cause => exact ⟨cause, rfl⟩
  | ok glob =>
    refine ⟨.ofOs root e, ?_⟩
    have hplace : rootPlace searcher.world root = .error (.ofOs root e) := by
      unfold rootPlace
      rw [hresolve]
    rw [hplace]
    rfl

theorem findByName_of_missing (hroot : searcher.world.exists? root = false) (pattern : String) :
    (findByName searcher root pattern).value = .failed := by
  obtain ⟨e, hwalk⟩ := enumerate_of_missing hroot pattern
  unfold findByName
  rw [hwalk]
  rfl

theorem scanFiles_of_missing (hroot : searcher.world.exists? root = false) (operation : String)
    (keep? : String → Except SearchError Bool) (describe : SearchError → String) :
    (scanFiles searcher root operation keep? describe).value = .failed := by
  obtain ⟨e, hwalk⟩ := enumerate_of_missing hroot allFiles
  exact scanFiles_value_of_error keep? describe searcher root operation hwalk

theorem findByRegex_of_missing (hroot : searcher.world.exists? root = false) (pattern : String) :
    (findByRegex searcher root pattern).value = .failed := by
  unfold findByRegex
  cases compileRegex pattern with
  | error e => rfl
  | ok regex => exact scanFiles_of_missing hroot _ _ _

theorem findApiUsage_of_missing (hroot : searcher.world.exists? root = false) (endpoint : String) :
    (findApiUsage searcher root endpoint).value = .failed := by
  unfold findApiUsage
  dsimp only
  split
  · exact scanFiles_of_missing hroot _ _ _
  · rfl

theorem findRecent_of_missing (hroot : searcher.world.exists? root = false) (days : UInt64) :
    (findRecent searcher root days).value = .failed := by
  rw [findRecent_value]
  exact scanFiles_of_missing hroot _ _ _

theorem findStyles_of_missing (hroot : searcher.world.exists? root = false) (component : String) :
    (findStyles searcher root component).value = .failed := by
  refine (findStyles_of_failed ?_).1
  unfold sourceSearch
  rw [findByName_of_missing hroot]
  rfl

theorem findRelatedTests_of_missing (hroot : searcher.world.exists? root = false)
    (target : String) : (findRelatedTests searcher root target).value = .failed := by
  unfold findRelatedTests
  dsimp only
  split
  · split <;> rfl
  · split
    · rfl
    · exact findByName_of_missing hroot _

/-- A query on a file that cannot be read has failed. -/
theorem withImporter_of_error {file operation : String} {e : SearchError}
    {query : String → String → Logged Outcome} (h : readImporter searcher root file = .error e) :
    (withImporter searcher root file operation query).value = .failed := by
  unfold withImporter
  rw [h]
  rfl

/-- A request that does not look elsewhere fails. -/
theorem run_of_missing (hroot : searcher.world.exists? root = false) {request : Request}
    (h : ¬ request.LooksElsewhere searcher root) :
    (request.run searcher root).value = .failed := by
  have hunread {file : String} (hfile : ¬ ∃ read, readImporter searcher root file = .ok read) :
      ∃ e, readImporter searcher root file = .error e := by
    cases hread : readImporter searcher root file with
    | ok read => exact absurd ⟨read, hread⟩ hfile
    | error e => exact ⟨e, rfl⟩
  obtain ⟨tool, argument⟩ := request
  cases tool with
  | findFilesByName => exact findByName_of_missing hroot _
  | findFilesByContent => exact scanFiles_of_missing hroot _ _ _
  | findFilesByRegex => exact findByRegex_of_missing hroot _
  | findImportedFiles =>
    obtain ⟨e, hread⟩ := hunread h
    exact withImporter_of_error hread
  | findDependencies =>
    obtain ⟨e, hread⟩ := hunread h
    exact withImporter_of_error hread
  | findRelatedClasses =>
    obtain ⟨e, hread⟩ := hunread h
    exact withImporter_of_error hread
  | findStyleDependencies => exact findStyles_of_missing hroot _
  | findRelatedTests => exact findRelatedTests_of_missing hroot _
  | findComponentUsage => exact scanFiles_of_missing hroot _ _ _
  | findApiUsage => exact findApiUsage_of_missing hroot _
  | findFunctionDefinition => exact scanFiles_of_missing hroot _ _ _
  | findRecentlyModifiedFiles => exact findRecent_of_missing hroot _
  | findExternalDependency =>
    have hname : isModuleName argument = false := by simpa [Request.LooksElsewhere] using h
    show (findExternal searcher root argument).value = .failed
    simp [findExternal, hname]

/-! ## Requests that look elsewhere -/

section Elsewhere

variable (hne : root ≠ "") (hroot : searcher.world.exists? root = false)
include hne hroot

/-- No file that is named from a missing root can be read. -/
theorem readImporter_of_missing {file : String} (hfile : Path.isAbsolute file = false) :
    ∃ e, readImporter searcher root file = .error e := by
  obtain ⟨e, hstat⟩ := World.exists?_eq_false_iff.1 hroot
  obtain ⟨cause, hcause⟩ := World.stat_join_of_error hne hfile hstat
  unfold readImporter targetPath
  dsimp only
  cases Path.relativePath root (Path.join root file) with
  | none => exact ⟨_, rfl⟩
  | some relative =>
    have htext : searcher.readText (Path.join root file) =
        .error (.ofOs (Path.join root file) cause) := by
      unfold Searcher.readText World.readText World.readBytes
      rw [hcause]
    exact ⟨_, by rw [htext]; rfl⟩

/-- Below a missing root nothing is a regular file. -/
theorem isAccepted_probe_of_missing {path : String} (hpath : Path.isAbsolute path = false) :
    isAccepted (searcher.probe root path) = false := by
  obtain ⟨e, hstat⟩ := World.exists?_eq_false_iff.1 hroot
  obtain ⟨cause, hcause⟩ := World.stat_join_of_error hne hpath hstat
  unfold Searcher.probe Searcher.stat
  rw [hcause]
  cases cause <;> rfl

theorem isAccepted_isResultFile_of_missing {path : String} (hpath : Path.isAbsolute path = false) :
    isAccepted (searcher.isResultFile root path) = false := by
  unfold Searcher.isResultFile
  split
  · rfl
  · exact isAccepted_probe_of_missing hne hroot hpath

/-- Trying candidates below a missing root finds none of them. -/
theorem not_finds_of_missing {candidates : List String} {path : String}
    (hcandidates : ∀ candidate ∈ candidates, Path.isAbsolute candidate = false) :
    ¬ Finds searcher root candidates path := by
  rintro ⟨before, candidate, after, rfl, -, rfl, hname, node, hstat, -⟩
  obtain ⟨e, hmissing⟩ := World.exists?_eq_false_iff.1 hroot
  obtain ⟨cause, hcause⟩ :=
    World.stat_join_of_error hne (hcandidates candidate (by simp)) hmissing
  rw [hstat] at hcause
  cases hcause

theorem findImported_of_missing (file : String) :
    (findImported searcher root file).value.value = [] := by
  cases hread : readImporter searcher root file with
  | error e =>
    have hfailed : (findImported searcher root file).value = .failed := withImporter_of_error hread
    rw [hfailed]
    rfl
  | ok read =>
    obtain ⟨importer, text⟩ := read
    have hnone : ∀ reference, importedFile? searcher root importer reference = none := by
      intro reference
      rw [Option.eq_none_iff_forall_ne_some]
      intro path hpath
      obtain ⟨resolved, hresolved, hfinds⟩ := importedFile?_eq_some_iff.1 hpath
      obtain ⟨habsolute, hempty⟩ :=
        isAbsolute_of_resolveRelative? (resolve?_eq_some_iff.1 hresolved).2
      refine not_finds_of_missing hne hroot ?_ hfinds
      -- every candidate starts with what the specifier resolves to
      intro candidate hcandidate
      rcases mem_importCandidates_iff.1 hcandidate with rfl | ⟨extension, -, rfl⟩ | ⟨extension, -, rfl⟩
      · exact habsolute
      · rw [String.append_assoc, Path.isAbsolute_ofText_append hempty, habsolute]
      · rw [String.append_assoc, Path.isAbsolute_ofText_append hempty, habsolute]
    simp [findImported_value hread, hnone]

/-- A query on the classes of a file finds nothing below a missing root: no import is there, and no
base class can be scanned for. -/
theorem findRelatedClasses_of_missing (file : String) :
    (findRelatedClasses searcher root file).value.value = [] := by
  cases hread : readImporter searcher root file with
  | error e =>
    have hfailed : (findRelatedClasses searcher root file).value = .failed :=
      withImporter_of_error hread
    rw [hfailed]
    rfl
  | ok read =>
    obtain ⟨importer, text⟩ := read
    have himports : (classFiles importer text).filter
        (fun path => isAccepted (searcher.isResultFile root path)) = [] := by
      rw [List.filter_eq_nil_iff]
      intro path hpath
      obtain ⟨reference, -, hclass⟩ := List.mem_filterMap.1 hpath
      obtain ⟨resolved, hresolved, rfl⟩ := Option.map_eq_some_iff.1 hclass
      obtain ⟨habsolute, hempty⟩ :=
        isAbsolute_of_resolveRelative? (resolve?_eq_some_iff.1 hresolved).2
      have hrelative : Path.isAbsolute (OsText.ofText
          (if Path.hasExtension resolved then resolved else resolved ++ ".ts")) = false := by
        split
        · exact habsolute
        · rw [Path.isAbsolute_ofText_append hempty, habsolute]
      simp [isAccepted_isResultFile_of_missing hne hroot hrelative]
    have hscans : ((extractClasses text).flatMap fun extension =>
        (baseScan searcher root extension).value.value) = [] := by
      rw [List.flatMap_eq_nil_iff]
      intro extension _
      have hscan : (baseScan searcher root extension).value = .failed :=
        scanFiles_of_missing hroot _ _ _
      rw [hscan]
      rfl
    simp only [findRelatedClasses, withImporter, hread, Logged.value_bind, Logged.value_pure,
      selectFiles_value, baseFiles_value]
    rw [hscans, List.append_nil]
    exact (congrArg List.eraseDups himports).trans rfl

omit hne in
/-- The scan for a base class is a problem below a missing root. -/
theorem findRelatedClasses_status_of_missing {file importer text : String}
    (hread : readImporter searcher root file = .ok (importer, text))
    (hclasses : extractClasses text ≠ []) :
    (findRelatedClasses searcher root file).value.status ≠ .complete := by
  rw [findRelatedClasses_status searcher root hread, Ne, ScanStatus.ofSkipped_eq_complete_iff]
  obtain ⟨extension, rest, hcons⟩ := List.exists_cons_of_ne_nil hclasses
  have hscan : (baseScan searcher root extension).value.status = .failed := by
    have hvalue : (baseScan searcher root extension).value = .failed :=
      scanFiles_of_missing hroot _ _ _
    rw [hvalue]
    rfl
  have hbalanced : (baseScan searcher root extension).Balanced := scanTexts_balanced _ _ _
  have hproblem := (hbalanced.failed_eq hscan).1
  rw [hcons, List.flatMap_cons, List.length_append]
  omega

end Elsewhere

/-- What looking for a package finds at its candidates. -/
theorem findExternal_value {name : String} (hname : isModuleName name = true) :
    (findExternal searcher root name).value =
      let candidates := packageCandidates searcher.config.scan.dependencyDir name
      .withSkipped (candidates.filter fun path => isAccepted (searcher.probe root path))
        (faults (searcher.probe root) candidates).length := by
  simp [findExternal, hname, selectFiles_value]

theorem isAbsolute_of_mem_packageCandidates {dependencyDir name candidate : String}
    (hne : dependencyDir ≠ "") (habsolute : Path.isAbsolute dependencyDir = false)
    (h : candidate ∈ packageCandidates dependencyDir name) : Path.isAbsolute candidate = false := by
  simp only [packageCandidates, List.mem_cons, List.not_mem_nil, or_false] at h
  rcases h with rfl | rfl | rfl
  all_goals
    simp only [String.append_assoc]
    rw [Path.isAbsolute_ofText_append hne, habsolute]

/-- A package that is looked for below a missing root is not found, and this counts as complete if
none of its candidates exists. -/
theorem findExternal_of_missing (hne : root ≠ "") (hroot : searcher.world.exists? root = false)
    {name : String} (hname : isModuleName name = true)
    (hdir : searcher.config.scan.dependencyDir ≠ "")
    (habsolute : Path.isAbsolute searcher.config.scan.dependencyDir = false) :
    (findExternal searcher root name).value.value = [] ∧
      ((findExternal searcher root name).value.status = .complete ↔
        ∀ candidate ∈ packageCandidates searcher.config.scan.dependencyDir name,
          searcher.world.stat (Path.join root candidate) = .error .notFound) := by
  have hrelative : ∀ candidate ∈ packageCandidates searcher.config.scan.dependencyDir name,
      Path.isAbsolute candidate = false := fun candidate =>
    isAbsolute_of_mem_packageCandidates hdir habsolute
  rw [findExternal_value hname]
  dsimp only
  rw [Outcome.value_withSkipped, Outcome.status_withSkipped, List.filter_eq_nil_iff,
    ScanStatus.ofSkipped_eq_complete_iff, List.length_eq_zero_iff, faults,
    List.filterMap_eq_nil_iff]
  refine ⟨fun candidate hcandidate => ?_, forall₂_congr fun candidate hcandidate => ?_⟩
  · simp [isAccepted_probe_of_missing hne hroot (hrelative candidate hcandidate)]
  · obtain ⟨e, hmissing⟩ := World.exists?_eq_false_iff.1 hroot
    obtain ⟨cause, hcause⟩ :=
      World.stat_join_of_error hne (hrelative candidate hcandidate) hmissing
    -- a candidate that cannot be looked at is passed over only for want of it
    unfold Searcher.probe Searcher.stat
    rw [hcause]
    cases cause <;> simp [SearchError.ofOs, SearchError.isNotFound]

/-- **A missing root.**  A request on a root that does not exist fails, finds nothing and reports one
problem, unless it looks elsewhere.  No file that is named from the root can be read then; a query on
another one finds no file below the root, and is not complete if it looks for base classes; and a
package is not found there, which counts as complete where each of its candidates is found missing. -/
theorem run_fails_on_missing_root (hroot : searcher.world.exists? root = false) :
    (∀ request : Request, ¬ request.LooksElsewhere searcher root →
      (request.run searcher root).value = ⟨[], .failed⟩ ∧
        (request.run searcher root).log.problems.length = 1) ∧
    (root ≠ "" →
      (∀ file : String, Path.isAbsolute file = false →
        ¬ ∃ read, readImporter searcher root file = .ok read) ∧
      (∀ file, (findImported searcher root file).value.value = [] ∧
        (findRelatedClasses searcher root file).value.value = []) ∧
      (∀ file importer text, readImporter searcher root file = .ok (importer, text) →
        extractClasses text ≠ [] →
        (findRelatedClasses searcher root file).value.status ≠ .complete) ∧
      ∀ name, isModuleName name = true → searcher.config.scan.dependencyDir ≠ "" →
        Path.isAbsolute searcher.config.scan.dependencyDir = false →
        (findExternal searcher root name).value.value = [] ∧
          ((findExternal searcher root name).value.status = .complete ↔
            ∀ candidate ∈ packageCandidates searcher.config.scan.dependencyDir name,
              searcher.world.stat (Path.join root candidate) = .error .notFound)) := by
  constructor
  · intro request hrequest
    have hvalue := run_of_missing hroot hrequest
    have hbalanced := run_balanced searcher root request
    refine ⟨hvalue, (hbalanced.failed_eq ?_).1⟩
    rw [hvalue]
    rfl
  · intro hne
    refine ⟨?_, ?_, ?_, ?_⟩
    · rintro file hfile ⟨read, hread⟩
      obtain ⟨e, herror⟩ := readImporter_of_missing hne hroot hfile
      rw [herror] at hread
      cases hread
    · intro file
      exact ⟨findImported_of_missing hne hroot file, findRelatedClasses_of_missing hne hroot file⟩
    · intro file importer text hread hclasses
      exact findRelatedClasses_status_of_missing hroot hread hclasses
    · intro name hname hdir habsolute
      exact findExternal_of_missing hne hroot hname hdir habsolute

/-- A directory with one file and nothing else. -/
def missingRootSample : Searcher where
  world := .ofEntries [("/repo/a.ts", .text "import x from 'react'; class A extends B")]
  config := {}

theorem run_fails_on_missing_root_missingRootSample :
    missingRootSample.world.exists? "/repo/gone/.." = false ∧
      (¬ Request.LooksElsewhere missingRootSample "/repo/gone/.." ⟨.findRelatedTests, "/repo"⟩ ∧
        (Request.run missingRootSample "/repo/gone/.." ⟨.findRelatedTests, "/repo"⟩).value =
          ⟨[], .failed⟩) ∧
      (readImporter missingRootSample "/repo/gone/.." "/repo/a.ts" =
          .ok ("a.ts", "import x from 'react'; class A extends B") ∧
        (findRelatedClasses missingRootSample "/repo/gone/.." "/repo/a.ts").value.status ≠
          .complete) ∧
      (findExternal missingRootSample "/repo/gone/.." "lodash").value.value = [] := by
  have hroot : missingRootSample.world.exists? "/repo/gone/.." = false := by decide +kernel
  have hread : readImporter missingRootSample "/repo/gone/.." "/repo/a.ts" =
      .ok ("a.ts", "import x from 'react'; class A extends B") := by decide +kernel
  have helsewhere :
      ¬ Request.LooksElsewhere missingRootSample "/repo/gone/.." ⟨.findRelatedTests, "/repo"⟩ :=
    fun h => h
  obtain ⟨hwalks, hbelow⟩ := run_fails_on_missing_root hroot
  obtain ⟨-, -, hclasses, hpackage⟩ := hbelow (by decide)
  refine ⟨hroot, ⟨helsewhere, (hwalks _ helsewhere).1⟩, ⟨hread, ?_⟩, ?_⟩
  · exact hclasses _ _ _ hread (by decide +kernel)
  · exact (hpackage "lodash" (by decide +kernel) (by decide) (by decide +kernel)).1

/-- Requests that look elsewhere are complete on a root that does not exist: one finds no candidate of
a package, the other reads a file that lies below the root once its path is folded. -/
theorem run_completes_missingRootSample :
    missingRootSample.world.exists? "/gone" = false ∧
      (Request.run missingRootSample "/gone" ⟨.findExternalDependency, "lodash"⟩).value =
        ⟨[], .complete⟩ ∧
      (Request.run missingRootSample "/gone" ⟨.findExternalDependency, "lodash"⟩).log.problems = [] ∧
      missingRootSample.world.exists? "/repo/gone/.." = false ∧
      (Request.run missingRootSample "/repo/gone/.." ⟨.findDependencies, "/repo/a.ts"⟩).value =
        ⟨["react"], .complete⟩ := by
  decide +kernel

end CodeSearch
