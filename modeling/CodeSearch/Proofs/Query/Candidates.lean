import CodeSearch.Proofs.Query.Packages

/-!
# Where the candidates of a package lie

The candidates of a package are put together from its name and from the name of its types.  A package
name makes no detours, so what is put below it stays there (`isNormal_of_isModuleName`).  The name of the
types is cut out of it after it was looked at, and it is a single name unless nothing but dots is left
(`isSingleName_typesName_iff`).  Apart from these three names, every candidate lies directly in a
directory of its package (`findExternal_stays_in_package`).
-/

namespace CodeSearch

/-- The names of packages whose types are kept under no single name. -/
def dottedScopes : List String := ["@", "@.", "@.."]

theorem isSingleName_typesName_iff {name : String} (h : isModuleName name = true) :
    IsSingleName (typesName name) ↔ name ∉ dottedScopes := by
  have hhead : ∀ other ∈ dottedScopes, other.toList.head? = some '@' := by decide
  have hslash : ∀ other ∈ dottedScopes, '/' ∉ other.toList := by decide
  rcases typesName_cases h with ⟨hsingle, hplain, htypes⟩ | ⟨rest, hfree, rfl, htypes⟩ |
      ⟨scope, single, hfree, hsingle, rfl, htypes⟩
  · rw [htypes]
    exact ⟨fun _ hmem => hplain (hhead name hmem), fun _ => hsingle⟩
  · -- what is left of the name is empty or made of dots in just the three cases
    have hiff (text : String) :
        String.ofList ('@' :: rest) = "@" ++ text ↔ String.ofList rest = text := by
      simp [← String.toList_inj]
    have hmem : String.ofList ('@' :: rest) ∈ dottedScopes ↔
        String.ofList rest = "" ∨ String.ofList rest = "." ∨ String.ofList rest = ".." := by
      rw [← hiff, ← hiff, ← hiff]
      simp [dottedScopes]
    rw [htypes, hmem]
    constructor
    · rintro ⟨hempty, hdot, hdotdot, -⟩ (heq | heq | heq)
      · exact hempty heq
      · exact hdot heq
      · exact hdotdot heq
    · intro hother
      rw [not_or, not_or] at hother
      exact ⟨hother.1, hother.2.1, hother.2.2, by rwa [String.toList_ofList]⟩
  · have hother {text : String} (hline : '_' ∉ text.toList) :
        String.ofList scope ++ "__" ++ single ≠ text := by
      rintro rfl
      simp at hline
    rw [htypes]
    refine ⟨fun _ hmem => hslash _ hmem (by simp), fun _ => ?_⟩
    refine ⟨hother (by decide), hother (by decide), hother (by decide), ?_⟩
    simp [hfree, hsingle.no_slash]

section Candidates

variable {dependencyDir name : String} (hdir : IsSingleName dependencyDir)
  (hname : isModuleName name = true)
include hdir

/-- The file of the types of a package. -/
theorem isNormal_typesFile {types : String} (htypes : IsSingleName types) :
    Path.IsNormal (dependencyDir ++ "/" ++ "@types" ++ "/" ++ types ++ "/" ++ "index.d.ts") := by
  have hparent : Path.IsNormal "@types" := Path.isNormal_single (by decide)
  have hfile : Path.IsNormal "index.d.ts" := Path.isNormal_single (by decide)
  exact (((Path.isNormal_single hdir).slash hparent).slash (Path.isNormal_single htypes)).slash hfile

include hname

theorem isNormal_of_mem_packageCandidates (hscope : name ∉ dottedScopes) :
    ∀ candidate ∈ packageCandidates dependencyDir name, Path.IsNormal candidate := by
  have hfiles : ∀ file ∈ ["index.d.ts", "index.js"], IsSingleName file := by decide
  rw [packageCandidates_eq, List.forall_mem_cons, List.forall_mem_map]
  exact ⟨isNormal_typesFile hdir ((isSingleName_typesName_iff hname).2 hscope),
    fun file hfile => isNormal_packageFile hdir hname (hfiles file hfile)⟩

end Candidates

/-- The files of the package itself lie in one directory. -/
theorem directory_of_mem_tail_packageCandidates (dependencyDir name : String) :
    ∀ candidate ∈ (packageCandidates dependencyDir name).tail,
      Path.directory candidate = dependencyDir ++ "/" ++ name := by
  have hfiles : ∀ file ∈ ["index.d.ts", "index.js"], '/' ∉ file.toList := by decide
  rw [packageCandidates_eq, List.tail_cons, List.forall_mem_map]
  exact fun file hfile => Path.directory_slash _ (hfiles file hfile)

/-- A candidate that can be looked at and is there is a regular file. -/
theorem isAccepted_probe (searcher : Searcher) (root : OsText) (path : String) :
    isAccepted (searcher.probe root path) = searcher.world.isFile (Path.join root path) := by
  unfold Searcher.probe Searcher.stat World.isFile
  cases searcher.world.stat (Path.join root path) with
  | ok node => rfl
  | error e => cases e <;> rfl

/-- The candidates that are regular files are found, in order. -/
theorem findExternal_value_isFile (searcher : Searcher) {name : String}
    (hname : isModuleName name = true) (root : OsText) :
    (findExternal searcher root name).value.value =
      (packageCandidates searcher.config.scan.dependencyDir name).filter fun path : String =>
        searcher.world.isFile (Path.join root path) := by
  simp only [findExternal_value hname, Outcome.value_withSkipped, isAccepted_probe]

/-- **Candidates stay in their package.**  Unless nothing but dots is left of a package name once its
`@` is gone, every file by which the package can be found is named without detours: the types lie in the
directory of one package among the types, the others in the directory of the package.  Found are those
that are regular files, under the paths by which they are found from the root. -/
theorem findExternal_stays_in_package {searcher : Searcher} {name : String}
    (hdir : IsSingleName searcher.config.scan.dependencyDir) (hname : isModuleName name = true)
    (hscope : name ∉ dottedScopes) (root : OsText) :
    let dependencyDir := searcher.config.scan.dependencyDir
    let candidates := packageCandidates dependencyDir name
    let found := (findExternal searcher root name).value.value
    (∀ candidate ∈ candidates, Path.IsNormal candidate) ∧
      (∃ package, IsSingleName package ∧
        candidates.head? = some (dependencyDir ++ "/@types/" ++ package ++ "/index.d.ts")) ∧
      (∀ candidate ∈ candidates.tail, Path.directory candidate = dependencyDir ++ "/" ++ name) ∧
      (found = candidates.filter fun path : String => searcher.world.isFile (Path.join root path)) ∧
      ∀ path ∈ found, Path.relativePath root (Path.join root path) = some path := by
  intro dependencyDir candidates found
  have hnormal := isNormal_of_mem_packageCandidates hdir hname hscope
  have hfound : found = _ := findExternal_value_isFile searcher hname root
  refine ⟨hnormal, ⟨typesName name, (isSingleName_typesName_iff hname).2 hscope, rfl⟩,
    directory_of_mem_tail_packageCandidates dependencyDir name, hfound, fun path hpath => ?_⟩
  rw [hfound] at hpath
  exact (hnormal path (List.mem_filter.1 hpath).1).relativePath_join root

/-- The types of a package with a scope, and a file beside all packages. -/
def scopedSample : Searcher where
  world := .ofEntries [("/node_modules/@types/a__b/index.d.ts", .text ""),
    ("/node_modules/index.d.ts", .text "")]
  config := {}

theorem findExternal_stays_in_package_scopedSample :
    (IsSingleName "node_modules" ∧ isModuleName "@a/b" = true ∧ "@a/b" ∉ dottedScopes) ∧
      (findExternal scopedSample "/" "@a/b").value.value =
        ["node_modules/@types/a__b/index.d.ts"] ∧
      Path.relativePath "/" (Path.join "/" "node_modules/@types/a__b/index.d.ts") =
        some "node_modules/@types/a__b/index.d.ts" := by
  have hdir : IsSingleName scopedSample.config.scan.dependencyDir := by decide
  have hname : isModuleName "@a/b" = true := by decide +kernel
  have hscope : "@a/b" ∉ dottedScopes := by decide
  obtain ⟨-, -, -, hfound, hrelative⟩ := findExternal_stays_in_package hdir hname hscope "/"
  have hvalue : (findExternal scopedSample "/" "@a/b").value.value =
      ["node_modules/@types/a__b/index.d.ts"] := by
    rw [hfound]
    decide +kernel
  refine ⟨⟨hdir, hname, hscope⟩, hvalue, hrelative _ ?_⟩
  rw [hvalue]
  exact List.mem_singleton_self _

/-- Of `@..` nothing but dots is left, and the file that is found for its types lies beside all
packages. -/
theorem findExternal_leaves_package_scopedSample :
    isModuleName "@.." = true ∧
      (findExternal scopedSample "/" "@..").value =
        .complete ["node_modules/@types/../index.d.ts"] ∧
      ¬ Path.IsNormal "node_modules/@types/../index.d.ts" ∧
      Path.relativePath "/" (Path.join "/" "node_modules/@types/../index.d.ts") =
        some "node_modules/index.d.ts" := by
  refine ⟨by decide +kernel, by decide +kernel, fun h => ?_, by decide +kernel⟩
  exact (h ".." (by decide +kernel)).ne_dotdot rfl

end CodeSearch
