import CodeSearch.Config.Decode
import CodeSearch.Proofs.Query.Basic
import CodeSearch.Proofs.Walk.Alike

/-!
# What a query depends on

A query sees a file system through three windows: walks of its root, texts and states of paths that are
joined to the root.  Searchers that agree there, and on the clock and the configuration, run every
request alike, with the same log (`run_congr`).

For an absolute root all these paths are absolute, so the working directory matters only where ignore
rules of the user count, which are relative to it (`World.SameFiles.agree`, `World.SameFiles.run_eq`).
For the configuration of the root it does not matter at all (`World.SameFiles.discover_eq`).
-/

namespace CodeSearch

/-- Two searchers that see the same below a root. -/
structure Searcher.Agree (root : OsText) (searcher other : Searcher) : Prop where
  config : searcher.config = other.config
  now : searcher.world.now = other.world.now
  enumerate : ∀ pattern, searcher.enumerate root pattern = other.enumerate root pattern
  readText : ∀ file : String, searcher.readText (Path.join root file) = other.readText (Path.join root file)
  stat : ∀ file : String, searcher.stat (Path.join root file) = other.stat (Path.join root file)

section Agree

variable {root : OsText} {searcher other : Searcher} (h : Searcher.Agree root searcher other)
include h

theorem isResultFile_congr : searcher.isResultFile root = other.isResultFile root := by
  funext relative
  unfold Searcher.isResultFile Searcher.excludesName Searcher.probe
  rw [h.config, h.stat]

theorem probe_congr : searcher.probe root = other.probe root := by
  funext relative
  unfold Searcher.probe
  rw [h.stat]

theorem findByName_congr (pattern : String) :
    findByName searcher root pattern = findByName other root pattern := by
  unfold findByName
  rw [h.enumerate]

theorem scanFiles_congr (operation : String) {keep? keep?' : String → Except SearchError Bool}
    (hkeep : keep? = keep?') (describe : SearchError → String) :
    scanFiles searcher root operation keep? describe =
      scanFiles other root operation keep?' describe := by
  unfold scanFiles
  rw [h.enumerate, hkeep]

theorem scanTexts_congr (holds : String → Bool) :
    scanTexts searcher root holds = scanTexts other root holds := by
  have hkeep : (fun file : String => (searcher.readText (Path.join root file)).map holds) =
      fun file : String => (other.readText (Path.join root file)).map holds := by
    funext file
    rw [h.readText]
  exact scanFiles_congr h _ hkeep _

theorem withImporter_congr (file operation : String)
    {query query' : String → String → Logged Outcome} (hquery : query = query') :
    withImporter searcher root file operation query =
      withImporter other root file operation query' := by
  have hread : readImporter searcher root file = readImporter other root file := by
    unfold readImporter targetPath
    dsimp only
    rw [h.readText]
  unfold withImporter
  rw [hread, hquery]

theorem firstFile?_congr (candidates : List String) :
    firstFile? searcher root candidates = firstFile? other root candidates := by
  induction candidates with
  | nil => rfl
  | cons candidate rest ih => rw [firstFile?, firstFile?, isResultFile_congr h, ih]

theorem importedFiles_congr (importer : String) (references : List ImportReference) :
    importedFiles searcher root importer references =
      importedFiles other root importer references := by
  induction references with
  | nil => rfl
  | cons reference rest ih =>
    rw [importedFiles, importedFiles, ih]
    simp only [firstFile?_congr h, h.config]

theorem baseFiles_congr (classes : List (String × String)) :
    baseFiles searcher root classes = baseFiles other root classes := by
  induction classes with
  | nil => rfl
  | cons extension rest ih => rw [baseFiles, baseFiles, scanTexts_congr h, ih]

theorem styleFiles_congr (operation : String) (sources : List String) :
    styleFiles searcher root operation sources = styleFiles other root operation sources := by
  induction sources with
  | nil => rfl
  | cons source rest ih =>
    unfold styleFiles
    rw [h.readText, ih, isResultFile_congr h, h.config]

theorem findImported_congr (file : String) :
    findImported searcher root file = findImported other root file := by
  refine withImporter_congr h file _ ?_
  funext importer text
  rw [importedFiles_congr h]

theorem findDependencies_congr (file : String) :
    findDependencies searcher root file = findDependencies other root file := by
  refine withImporter_congr h file _ ?_
  funext importer text
  have hdependency : dependency? searcher importer = dependency? other importer := by
    funext reference
    unfold dependency? Searcher.excludesName
    rw [h.config]
  rw [hdependency]

theorem findRelatedClasses_congr (file : String) :
    findRelatedClasses searcher root file = findRelatedClasses other root file := by
  refine withImporter_congr h file _ ?_
  funext importer text
  rw [isResultFile_congr h, baseFiles_congr h]

theorem findStyles_congr (component : String) :
    findStyles searcher root component = findStyles other root component := by
  unfold findStyles
  simp only [h.config, findByName_congr h, styleFiles_congr h]

theorem findRelatedTests_congr (target : String) :
    findRelatedTests searcher root target = findRelatedTests other root target := by
  unfold findRelatedTests targetPath
  simp only [h.stat, h.config, findByName_congr h]

theorem findRecent_congr (days : UInt64) :
    findRecent searcher root days = findRecent other root days := by
  have hscan (operation : String) (keep? : String → Except SearchError Bool)
      (describe : SearchError → String) : scanFiles searcher root operation keep? describe =
        scanFiles other root operation keep? describe := scanFiles_congr h operation rfl describe
  unfold findRecent
  simp only [h.stat, h.now, hscan]

theorem findExternal_congr (name : String) :
    findExternal searcher root name = findExternal other root name := by
  unfold findExternal
  rw [probe_congr h, h.config]

/-- Searchers that agree below a root run every request on it alike. -/
theorem run_congr (request : Request) : request.run searcher root = request.run other root := by
  obtain ⟨tool, argument⟩ := request
  cases tool with
  | findFilesByName => exact findByName_congr h argument
  | findFilesByContent =>
    show findByContent searcher root argument = findByContent other root argument
    unfold findByContent
    rw [scanTexts_congr h]
  | findFilesByRegex =>
    show findByRegex searcher root argument = findByRegex other root argument
    unfold findByRegex
    simp only [scanTexts_congr h]
  | findImportedFiles => exact findImported_congr h argument
  | findDependencies => exact findDependencies_congr h argument
  | findRelatedClasses => exact findRelatedClasses_congr h argument
  | findStyleDependencies => exact findStyles_congr h argument
  | findRelatedTests => exact findRelatedTests_congr h argument
  | findComponentUsage =>
    show findComponentUsage searcher root argument = findComponentUsage other root argument
    unfold findComponentUsage
    rw [scanTexts_congr h]
  | findApiUsage =>
    show findApiUsage searcher root argument = findApiUsage other root argument
    unfold findApiUsage
    simp only [scanTexts_congr h]
  | findFunctionDefinition =>
    show findFunctionDefinition searcher root argument = findFunctionDefinition other root argument
    unfold findFunctionDefinition
    simp only [scanTexts_congr h]
  | findRecentlyModifiedFiles => exact findRecent_congr h argument
  | findExternalDependency => exact findExternal_congr h argument

end Agree

/-! ## Absolute roots -/

/-- Two programs that look at the same files at the same time, from directories of their own. -/
structure World.SameFiles (world other : World) : Prop where
  tree : world.tree = other.tree
  now : world.now = other.now

/-- Two programs with the same ignore rules of the user, if a scan heeds ignore files. -/
def World.SameRules (scan : ScanConfig) (world other : World) : Prop :=
  scan.respectGitignore = true → UserRules.load? world = UserRules.load? other

namespace World.SameFiles

variable {world other : World} (h : World.SameFiles world other)
include h

/-- An absolute path leads to the same place from every directory. -/
theorem resolve_eq {path : OsText} (hpath : Path.isAbsolute path = true) :
    world.resolve path = other.resolve path := by
  have hstart : world.start path = other.start path := by
    unfold World.start World.top
    rw [if_pos hpath, if_pos hpath, h.tree]
  unfold World.resolve World.locate
  rw [hstart]

theorem readBytes_eq {path : OsText} (hpath : Path.isAbsolute path = true) :
    world.readBytes path = other.readBytes path := by
  rw [World.readBytes_eq, World.readBytes_eq, h.resolve_eq hpath]

theorem readText_eq {path : OsText} (hpath : Path.isAbsolute path = true) :
    world.readText path = other.readText path := by
  unfold World.readText
  rw [h.readBytes_eq hpath]

theorem stat_eq {path : OsText} (hpath : Path.isAbsolute path = true) :
    world.stat path = other.stat path := by
  unfold World.stat
  rw [h.resolve_eq hpath]

/-- Every walk asks for absolute paths only, if it starts at one. -/
theorem alike {scan : ScanConfig} (hrules : World.SameRules scan world other) :
    Walk.Alike scan (fun path => Path.isAbsolute path = true) world other where
  top := by rw [h.tree]
  below _ path hbase := Path.isAbsolute_join hbase path
  absolute _ hpath := hpath
  resolve _ hpath := by rw [h.resolve_eq hpath]
  readBytes _ _ hpath := h.readBytes_eq hpath
  user := hrules

/-- Below an absolute root, programs see the same from every directory. -/
theorem agree {config : Config} (hrules : World.SameRules config.scan world other) {root : OsText}
    (hroot : Path.isAbsolute root = true) :
    Searcher.Agree root ⟨world, config⟩ ⟨other, config⟩ where
  config := rfl
  now := h.now
  enumerate pattern := Walk.walkFiles_congr (h.alike hrules) hroot pattern
  readText file := by
    unfold Searcher.readText
    rw [h.readText_eq (Path.isAbsolute_join hroot file)]
  stat file := by
    unfold Searcher.stat
    rw [h.stat_eq (Path.isAbsolute_join hroot file)]

/-- An absolute directory has the same configuration from every working directory. -/
theorem discover_eq {root : OsText} (hroot : Path.isAbsolute root = true) :
    Config.discover world root = Config.discover other root := by
  have hpath := Path.isAbsolute_join hroot Config.fileName
  unfold Config.discover World.isFile Config.load
  dsimp only
  rw [h.stat_eq hpath, h.readText_eq hpath]

/-- Below an absolute directory, a request runs alike from every working directory. -/
theorem run_eq {root : OsText} (hroot : Path.isAbsolute root = true) {config : Config}
    (hrules : World.SameRules config.scan world other) (request : Request) :
    request.run ⟨world, config⟩ root = request.run ⟨other, config⟩ root :=
  run_congr (h.agree hrules hroot) request

end World.SameFiles

end CodeSearch
