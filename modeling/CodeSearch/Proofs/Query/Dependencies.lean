import CodeSearch.Proofs.Query.Exclusion

/-!
# What a file depends on

Dependencies are the imports of a file, written as paths below the root or as the names of packages
(`rendering?`).  An import is left out for either of two texts: the specifier as it stands in the
source, and what it is written as.  Looking imports up as files asks only whether the file found lies in
the dependency directory, and a file may be found under a longer name than the import is written as.
So a file can be found for an import that is no dependency, and `findDependencies_lists_renderings` says
when.
-/

namespace CodeSearch

/-- How an import in a file is written as a dependency: a relative one as the path that it means, any
other one as it stands. -/
def rendering? (importer : String) (reference : ImportReference) : Option String :=
  if reference.isRelative then resolveRelative? importer reference.specifier
  else some reference.specifier

/-! ## Parts of a longer path -/

/-- What follows a text can change no run but the last one. -/
theorem Text.exists_splitWhere_append {α : Type} (cut : α → Bool) (text rest : List α) :
    ∃ more, splitWhere cut (text ++ rest) = (splitWhere cut text).dropLast ++ more := by
  induction text with
  | nil => exact ⟨splitWhere cut rest, rfl⟩
  | cons a text ih =>
    obtain ⟨more, hmore⟩ := ih
    rw [List.cons_append, splitWhere, splitWhere, hmore]
    by_cases ha : cut a = true
    · refine ⟨more, ?_⟩
      rw [if_pos ha, if_pos ha, List.dropLast_cons_of_ne_nil (splitWhere_ne_nil cut text)]
      rfl
    · rw [if_neg ha, if_neg ha]
      cases hruns : splitWhere cut text with
      | nil => exact absurd hruns (splitWhere_ne_nil cut text)
      | cons run runs =>
        cases runs with
        | nil => exact ⟨_, rfl⟩
        | cons next runs => exact ⟨more, rfl⟩

/-- A part of a path that no longer stands in it when something follows is its last part. -/
theorem getLast?_nameParts {dependencyDir path rest : String}
    (hpart : isExcludedName dependencyDir path = true)
    (hlonger : isExcludedName dependencyDir (path ++ rest) = false) :
    (nameParts path).getLast? = some dependencyDir := by
  obtain ⟨more, hmore⟩ := Text.exists_splitWhere_append isSeparator path.toList rest.toList
  have hparts : nameParts (path ++ rest) = (nameParts path).dropLast ++ more.map String.ofList := by
    show (Text.splitWhere isSeparator (path ++ rest).toList).map String.ofList =
      ((Text.splitWhere isSeparator path.toList).map String.ofList).dropLast ++ _
    rw [String.toList_append, hmore, List.map_append, List.map_dropLast]
  have hne : nameParts path ≠ [] := by
    rw [nameParts, Text.pieces, Ne, List.map_eq_nil_iff]
    exact Text.splitWhere_ne_nil _ _
  rw [isExcludedName, List.contains_iff_mem, ← List.dropLast_concat_getLast hne,
    List.mem_append, List.mem_singleton] at hpart
  rcases hpart with hbefore | hlast
  · have hmem : dependencyDir ∈ nameParts (path ++ rest) := by
      rw [hparts]
      exact List.mem_append_left _ hbefore
    rw [isExcludedName, List.contains_iff_mem.2 hmem] at hlonger
    cases hlonger
  · rw [List.getLast?_eq_some_getLast hne, hlast]

/-- Below a path its parts stay parts. -/
theorem isExcludedName_slash {dependencyDir path : String}
    (h : isExcludedName dependencyDir path = true) (rest : String) :
    isExcludedName dependencyDir (path ++ "/" ++ rest) = true := by
  rw [isExcludedName, List.contains_iff_mem] at h ⊢
  rw [nameParts, Text.pieces_slash rfl]
  exact List.mem_append_left _ h

/-! ## Dependencies and files -/

variable {searcher : Searcher} {root : OsText} {importer : String}

/-- An import is found under its own path unless the dependency directory ends that path. -/
theorem ends_with_dependencyDir {rendering path : String}
    (hpath : path ∈ importCandidates searcher.config rendering)
    (hkept : searcher.excludesName path = false) (hpart : searcher.excludesName rendering = true) :
    (nameParts rendering).getLast? = some searcher.config.scan.dependencyDir ∧
      ∃ extension ∈ searcher.config.queries.sourceExtensions,
        path = rendering ++ "." ++ extension := by
  rcases mem_importCandidates_iff.1 hpath with rfl | ⟨extension, hextension, rfl⟩ |
      ⟨extension, hextension, rfl⟩
  · rw [hpart] at hkept
    cases hkept
  · rw [Searcher.excludesName, String.append_assoc] at hkept
    exact ⟨getLast?_nameParts hpart hkept, extension, hextension, rfl⟩
  · have hslash : rendering ++ "/index." ++ extension =
        rendering ++ "/" ++ ("index." ++ extension) := by
      simp [← String.toList_inj]
    rw [hslash, Searcher.excludesName, isExcludedName_slash hpart] at hkept
    cases hkept

theorem dependency?_eq_some_iff {reference : ImportReference} {path : String} :
    dependency? searcher importer reference = some path ↔
      rendering? importer reference = some path ∧ searcher.excludesName path = false ∧
        searcher.excludesName reference.specifier = false := by
  have hresolve (h : reference.isRelative = true) :
      reference.resolve? importer = resolveRelative? importer reference.specifier := if_pos h
  unfold dependency? rendering?
  cases hspecifier : searcher.excludesName reference.specifier <;>
    cases hrelative : reference.isRelative <;>
      simp [Option.filter_eq_some_iff, hresolve, hrelative]

/-- What listing the dependencies of a file comes to. -/
theorem findDependencies_value {file text : String}
    (h : readImporter searcher root file = .ok (importer, text)) :
    (findDependencies searcher root file).value =
      .complete ((extractImports text).filterMap (dependency? searcher importer)) := by
  simp [findDependencies, withImporter, h]

/-- Every file that is found for the imports of a text is found for one of them. -/
theorem exists_reference_of_mem_findImported {file text path : String}
    (h : readImporter searcher root file = .ok (importer, text))
    (hpath : path ∈ (findImported searcher root file).value.value) :
    ∃ reference ∈ extractImports text, ∃ rendering, reference.isRelative = true ∧
      resolveRelative? importer reference.specifier = some rendering ∧
      path ∈ importCandidates searcher.config rendering ∧ searcher.excludesName path = false := by
  rw [findImported_value h, Outcome.value_withSkipped] at hpath
  obtain ⟨reference, hreference, hentry⟩ := List.mem_filterMap.1 hpath
  obtain ⟨rendering, hrendering, before, candidate, after, hcandidates, -, rfl, hfound⟩ :=
    importedFile?_eq_some_iff.1 hentry
  obtain ⟨hrelative, hrendering⟩ := resolve?_eq_some_iff.1 hrendering
  refine ⟨reference, hreference, rendering, hrelative, hrendering, ?_, hfound.1⟩
  rw [hcandidates]
  simp

/-- **Dependencies are the imports outside the dependency directory.**  They are listed in the order of
the text, as they are written below the root, and left out for the dependency directory in what stands
in the source or in what they are written as.  Where an import is found as a file it is a dependency,
apart from the ones whose specifier has the dependency directory in it, and from a file that only an
extension keeps from being called like that directory. -/
theorem findDependencies_lists_renderings {file text : String}
    (h : readImporter searcher root file = .ok (importer, text)) :
    let dependencyDir := searcher.config.scan.dependencyDir
    let extensions := searcher.config.queries.sourceExtensions
    let entry? := dependency? searcher importer
    (findDependencies searcher root file).value =
        .complete ((extractImports text).filterMap entry?) ∧
      (∀ reference path, entry? reference = some path ↔
        rendering? importer reference = some path ∧ ¬ IsPart dependencyDir path ∧
          ¬ IsPart dependencyDir reference.specifier) ∧
      ∀ path ∈ (findImported searcher root file).value.value,
        ∃ reference ∈ extractImports text, ∃ rendering, reference.isRelative = true ∧
          rendering? importer reference = some rendering ∧
          (path = rendering ∨ (∃ extension ∈ extensions, path = rendering ++ "." ++ extension) ∨
            ∃ extension ∈ extensions, path = rendering ++ "/index." ++ extension) ∧
          (rendering ∈ (findDependencies searcher root file).value.value ∨
            IsPart dependencyDir reference.specifier ∨
            ((nameParts rendering).getLast? = some dependencyDir ∧
              ∃ extension ∈ extensions, path = rendering ++ "." ++ extension)) := by
  intro dependencyDir extensions entry?
  have hvalue : (findDependencies searcher root file).value =
      .complete ((extractImports text).filterMap entry?) := findDependencies_value h
  have hkept (path : String) :
      searcher.excludesName path = false ↔ ¬ IsPart dependencyDir path := by
    rw [← isExcludedName_iff, Bool.not_eq_true]
    rfl
  refine ⟨hvalue, ?_, ?_⟩
  · intro reference path
    rw [← hkept, ← hkept]
    exact dependency?_eq_some_iff
  · intro path hpath
    obtain ⟨reference, hreference, rendering, hrelative, hresolved, hcandidate, hfound⟩ :=
      exists_reference_of_mem_findImported h hpath
    have hrendering : rendering? importer reference = some rendering :=
      (if_pos hrelative).trans hresolved
    refine ⟨reference, hreference, rendering, hrelative, hrendering,
      mem_importCandidates_iff.1 hcandidate, ?_⟩
    rw [← isExcludedName_iff]
    cases hspecifier : searcher.excludesName reference.specifier with
    | true => exact .inr (.inl hspecifier)
    | false =>
      cases hpart : searcher.excludesName rendering with
      | true => exact .inr (.inr (ends_with_dependencyDir hcandidate hfound hpart))
      | false =>
        rw [hvalue]
        refine .inl (List.mem_filterMap.2 ⟨reference, hreference, ?_⟩)
        exact dependency?_eq_some_iff.2 ⟨hrendering, hpart, hspecifier⟩

/-- A text with an import that passes by the dependency directory, one of a file that is called like it,
one of a package and two of another file. -/
def dependencyText : String :=
  "import b from './node_modules/../b'\nimport l from './node_modules'\nimport r from 'react'\n" ++
    "import c from './c'; import d from './c'"

/-- A file with that text, and the files that it imports. -/
def dependencySample : Searcher where
  world := .ofEntries [("/repo/a.ts", .text dependencyText), ("/repo/b.ts", .text ""),
    ("/repo/node_modules.ts", .text ""), ("/repo/c.ts", .text "")]
  config := {}

theorem extractImports_dependencyText : extractImports dependencyText =
    [⟨"./node_modules/../b"⟩, ⟨"./node_modules"⟩, ⟨"react"⟩, ⟨"./c"⟩, ⟨"./c"⟩] := by
  decide +kernel

theorem readImporter_dependencySample :
    readImporter dependencySample "/repo" "a.ts" = .ok ("a.ts", dependencyText) := by
  decide +kernel

theorem findDependencies_lists_renderings_dependencySample :
    readImporter dependencySample "/repo" "a.ts" = .ok ("a.ts", dependencyText) ∧
      (findDependencies dependencySample "/repo" "a.ts").value = .complete ["react", "c", "c"] := by
  refine ⟨readImporter_dependencySample, ?_⟩
  rw [(findDependencies_lists_renderings readImporter_dependencySample).1,
    extractImports_dependencyText]
  decide +kernel

/-- The dependency directory in a specifier hides an import that leads elsewhere, and a file called like
that directory is found though no dependency is. -/
theorem findDependencies_differs_from_renderings_dependencySample :
    (extractImports dependencyText).head? = some ⟨"./node_modules/../b"⟩ ∧
      rendering? "a.ts" ⟨"./node_modules/../b"⟩ = some "b" ∧ ¬ IsPart "node_modules" "b" ∧
      (findDependencies dependencySample "/repo" "a.ts").value ≠
        .complete (((extractImports dependencyText).filterMap (rendering? "a.ts")).filter
          fun path => !isExcludedName "node_modules" path) ∧
      (findImported dependencySample "/repo" "a.ts").value =
        .complete ["b.ts", "node_modules.ts", "c.ts", "c.ts"] := by
  have hpart : ¬ IsPart "node_modules" "b" := by
    rw [← isExcludedName_iff]
    decide +kernel
  rw [findDependencies_value readImporter_dependencySample,
    findImported_value readImporter_dependencySample, extractImports_dependencyText]
  refine ⟨rfl, by decide +kernel, hpart, by decide +kernel, by decide +kernel⟩

end CodeSearch
