import CodeSearch.Proofs.Query.Basic

/-!
# What the queries on imports find

An import is looked up by trying candidates in order.  Each candidate is passed over, found, or refused
by the operating system, and exactly one of the three holds (`isResultFile_cases`).  `firstFile?` stops
at the first candidate that is not passed over; `findImported` does this for every import on its own.
-/

namespace CodeSearch

/-! ## Candidates -/

/-- Trying goes past a candidate whose name is excluded, whatever stands there, and past one where
nothing stands or something else than a regular file. -/
def IsPassedOver (searcher : Searcher) (root : OsText) (candidate : String) : Prop :=
  searcher.excludesName candidate = true ∨
    searcher.world.stat (Path.join root candidate) = .error .notFound ∨
    ∃ node, searcher.world.stat (Path.join root candidate) = .ok node ∧ node.isFile = false

/-- Trying ends with a candidate that is a regular file. -/
def IsFound (searcher : Searcher) (root : OsText) (candidate : String) : Prop :=
  searcher.excludesName candidate = false ∧
    ∃ node, searcher.world.stat (Path.join root candidate) = .ok node ∧ node.isFile = true

/-- Trying breaks off at a candidate that cannot be examined, other than for want of a file. -/
def IsRefused (searcher : Searcher) (root : OsText) (candidate : String) : Prop :=
  searcher.excludesName candidate = false ∧
    ∃ e, searcher.world.stat (Path.join root candidate) = .error e ∧ e ≠ .notFound

theorem SearchError.isNotFound_ofOs (path : OsText) (e : OsError) :
    (SearchError.ofOs path e).isNotFound = decide (e = .notFound) := by
  cases e <;> rfl

variable {searcher : Searcher} {root : OsText}

/-- What `isResultFile` answers in each of the three cases. -/
theorem isResultFile_cases (searcher : Searcher) (root : OsText) (candidate : String) :
    (IsPassedOver searcher root candidate ∧ searcher.isResultFile root candidate = .ok false) ∨
    (IsFound searcher root candidate ∧ searcher.isResultFile root candidate = .ok true) ∨
    (IsRefused searcher root candidate ∧
      ∃ e, searcher.isResultFile root candidate = .error e) := by
  unfold Searcher.isResultFile Searcher.probe Searcher.stat
  cases hname : searcher.excludesName candidate with
  | true => exact .inl ⟨.inl hname, rfl⟩
  | false =>
    cases hstat : searcher.world.stat (Path.join root candidate) with
    | ok node =>
      cases hfile : node.isFile with
      | true => exact .inr (.inl ⟨⟨hname, node, hstat, hfile⟩, by simp [hfile]⟩)
      | false => exact .inl ⟨.inr (.inr ⟨node, hstat, hfile⟩), by simp [hfile]⟩
    | error e =>
      -- a file that is missing is no fault
      by_cases he : e = .notFound
      · subst he
        exact .inl ⟨.inr (.inl hstat), rfl⟩
      · refine .inr (.inr ⟨⟨hname, e, hstat, he⟩, .ofOs (Path.join root candidate) e, ?_⟩)
        simp [SearchError.isNotFound_ofOs, he]

theorem IsFound.not_isPassedOver {candidate : String} (h : IsFound searcher root candidate) :
    ¬ IsPassedOver searcher root candidate := by
  obtain ⟨hname, node, hstat, hfile⟩ := h
  rintro (hex | hmissing | ⟨other, hother, hnofile⟩)
  · simp [hname] at hex
  · simp [hstat] at hmissing
  · rw [hstat, Except.ok.injEq] at hother
    simp [← hother, hfile] at hnofile

theorem IsRefused.not_isPassedOver {candidate : String} (h : IsRefused searcher root candidate) :
    ¬ IsPassedOver searcher root candidate := by
  obtain ⟨hname, e, hstat, he⟩ := h
  rintro (hex | hmissing | ⟨node, hnode, -⟩)
  · simp [hname] at hex
  · rw [hstat, Except.error.injEq] at hmissing
    exact he hmissing
  · simp [hstat] at hnode

theorem IsRefused.not_isFound {candidate : String} (h : IsRefused searcher root candidate) :
    ¬ IsFound searcher root candidate := by
  rintro ⟨-, node, hnode, -⟩
  obtain ⟨-, e, hstat, -⟩ := h
  simp [hstat] at hnode

/-- What `isResultFile` accepts is found. -/
theorem isAccepted_isResultFile_iff {path : String} :
    isAccepted (searcher.isResultFile root path) = true ↔ IsFound searcher root path := by
  rcases isResultFile_cases searcher root path with ⟨h, heq⟩ | ⟨h, heq⟩ | ⟨h, e, heq⟩
  · have hfound : ¬ IsFound searcher root path := fun hf => hf.not_isPassedOver h
    simp [heq, hfound]
  · simp [heq, h]
  · simp [heq, h.not_isFound]

/-- What `isResultFile` cannot decide is refused. -/
theorem isSome_fault?_isResultFile_iff {path : String} :
    (fault? (searcher.isResultFile root path)).isSome = true ↔ IsRefused searcher root path := by
  rcases isResultFile_cases searcher root path with ⟨h, heq⟩ | ⟨h, heq⟩ | ⟨h, e, heq⟩
  · have hrefused : ¬ IsRefused searcher root path := fun hr => hr.not_isPassedOver h
    simp [heq, hrefused]
  · have hrefused : ¬ IsRefused searcher root path := fun hr => hr.not_isFound h
    simp [heq, hrefused]
  · simp [heq, h]

/-- The first of some candidates that is not passed over has a property. -/
def Reaches (searcher : Searcher) (root : OsText) (holds : String → Prop)
    (candidates : List String) : Prop :=
  ∃ before candidate after, candidates = before ++ candidate :: after ∧
    (∀ c ∈ before, IsPassedOver searcher root c) ∧ holds candidate

/-- Trying some candidates finds a path. -/
def Finds (searcher : Searcher) (root : OsText) (candidates : List String) (path : String) : Prop :=
  Reaches searcher root (fun c => c = path ∧ IsFound searcher root c) candidates

/-- Trying some candidates breaks off. -/
def BreaksOff (searcher : Searcher) (root : OsText) (candidates : List String) : Prop :=
  Reaches searcher root (IsRefused searcher root) candidates

@[simp] theorem not_reaches_nil (holds : String → Prop) : ¬ Reaches searcher root holds [] := by
  rintro ⟨before, candidate, after, h, -⟩
  simp at h

theorem reaches_cons_iff {holds : String → Prop} {candidate : String} {rest : List String} :
    Reaches searcher root holds (candidate :: rest) ↔
      holds candidate ∨ (IsPassedOver searcher root candidate ∧ Reaches searcher root holds rest) := by
  constructor
  · rintro ⟨before, found, after, heq, hbefore, hfound⟩
    -- `candidate` is what is reached, or the first of what is passed over
    cases before with
    | nil =>
      rw [List.nil_append, List.cons.injEq] at heq
      exact .inl (heq.1 ▸ hfound)
    | cons first before =>
      rw [List.cons_append, List.cons.injEq] at heq
      obtain ⟨rfl, rfl⟩ := heq
      exact .inr ⟨hbefore _ (by simp), before, found, after, rfl,
        fun c hc => hbefore c (List.mem_cons_of_mem _ hc), hfound⟩
  · rintro (h | ⟨hpassed, before, found, after, rfl, hbefore, hfound⟩)
    · exact ⟨[], candidate, rest, rfl, by simp, h⟩
    · refine ⟨candidate :: before, found, after, rfl, ?_, hfound⟩
      intro c hc
      rcases List.mem_cons.1 hc with rfl | hc
      · exact hpassed
      · exact hbefore c hc

/-- `firstFile?` yields a path exactly when trying finds it. -/
theorem firstFile?_eq_some_iff {candidates : List String} {path : String} :
    firstFile? searcher root candidates = .ok (some path) ↔
      Finds searcher root candidates path := by
  unfold Finds
  induction candidates with
  | nil => simp [firstFile?]
  | cons candidate rest ih =>
    rw [reaches_cons_iff, ← ih, firstFile?]
    rcases isResultFile_cases searcher root candidate with
      ⟨h, heq⟩ | ⟨h, heq⟩ | ⟨h, e, heq⟩
    · have hfound : ¬ IsFound searcher root candidate := fun hf => hf.not_isPassedOver h
      simp [heq, h, hfound]
    · simp [heq, h, h.not_isPassedOver]
    · simp [heq, h.not_isFound, h.not_isPassedOver]

/-- `firstFile?` fails exactly when trying breaks off. -/
theorem firstFile?_eq_error_iff {candidates : List String} :
    (∃ e, firstFile? searcher root candidates = .error e) ↔
      BreaksOff searcher root candidates := by
  unfold BreaksOff
  induction candidates with
  | nil => simp [firstFile?]
  | cons candidate rest ih =>
    rw [reaches_cons_iff, ← ih, firstFile?]
    rcases isResultFile_cases searcher root candidate with
      ⟨h, heq⟩ | ⟨h, heq⟩ | ⟨h, e, heq⟩
    · have hrefused : ¬ IsRefused searcher root candidate := fun hr => hr.not_isPassedOver h
      simp [heq, h, hrefused]
    · have hrefused : ¬ IsRefused searcher root candidate := fun hr => hr.not_isFound h
      simp [heq, h.not_isPassedOver, hrefused]
    · simp [heq, h]

/-! ## Files imported by a file -/

/-- What looking up an import yields: a file, or nothing, or the reason for which it broke off. -/
def lookUp (searcher : Searcher) (root : OsText) (importer : String) (reference : ImportReference) :
    Except SearchError (Option String) :=
  match reference.resolve? importer with
  | none => .ok none
  | some resolved => firstFile? searcher root (importCandidates searcher.config resolved)

/-- The entry that an import contributes, if it contributes one. -/
def importedFile? (searcher : Searcher) (root : OsText) (importer : String) (reference : ImportReference) :
    Option String :=
  match lookUp searcher root importer reference with
  | .ok found => found
  | .error _ => none

/-- Why looking up an import broke off, if it did. -/
def importFault? (searcher : Searcher) (root : OsText) (importer : String) (reference : ImportReference) :
    Option SearchError :=
  fault? (lookUp searcher root importer reference)

theorem resolve?_eq_some_iff {reference : ImportReference} {importer resolved : String} :
    reference.resolve? importer = some resolved ↔
      reference.isRelative = true ∧
        resolveRelative? importer reference.specifier = some resolved := by
  unfold ImportReference.resolve?
  split <;> simp_all

/-- An import contributes what its candidates lead to. -/
theorem importedFile?_eq_some_iff {importer path : String} {reference : ImportReference} :
    importedFile? searcher root importer reference = some path ↔
      ∃ resolved, reference.resolve? importer = some resolved ∧
        Finds searcher root (importCandidates searcher.config resolved) path := by
  unfold importedFile? lookUp
  cases hresolved : reference.resolve? importer with
  | none => simp
  | some resolved =>
    simp only [Option.some.injEq, exists_eq_left', ← firstFile?_eq_some_iff]
    cases firstFile? searcher root (importCandidates searcher.config resolved) <;> simp

/-- Looking up an import breaks off where trying its candidates does. -/
theorem importFault?_isSome_iff {importer : String} {reference : ImportReference} :
    (importFault? searcher root importer reference).isSome = true ↔
      ∃ resolved, reference.resolve? importer = some resolved ∧
        BreaksOff searcher root (importCandidates searcher.config resolved) := by
  unfold importFault? lookUp
  cases hresolved : reference.resolve? importer with
  | none => simp
  | some resolved =>
    simp only [Option.some.injEq, exists_eq_left', ← firstFile?_eq_error_iff]
    cases firstFile? searcher root (importCandidates searcher.config resolved) <;> simp

/-- The entries of the imports are listed in order, and those that break off are counted. -/
theorem importedFiles_value (importer : String) (references : List ImportReference) :
    (importedFiles searcher root importer references).value =
      (references.filterMap (importedFile? searcher root importer),
        (references.filterMap (importFault? searcher root importer)).length) := by
  induction references with
  | nil => rfl
  | cons reference rest ih =>
    unfold importedFiles
    cases hresolved : reference.resolve? importer with
    | none => simp [importedFile?, importFault?, lookUp, hresolved, ih]
    | some resolved =>
      cases hfile : firstFile? searcher root (importCandidates searcher.config resolved) with
      | ok found => cases found <;> simp [importedFile?, importFault?, lookUp, hresolved, hfile, ih]
      | error e => simp [importedFile?, importFault?, lookUp, hresolved, hfile, ih]

/-- Each import that breaks off is reported once. -/
theorem problems_importedFiles (importer : String) (references : List ImportReference) :
    (importedFiles searcher root importer references).problems =
      (references.filterMap (importFault? searcher root importer)).map
        fun e => "find_imported_files: " ++ e.message := by
  induction references with
  | nil => rfl
  | cons reference rest ih =>
    unfold importedFiles
    cases hresolved : reference.resolve? importer with
    | none => simp [importFault?, lookUp, hresolved, ih]
    | some resolved =>
      cases hfile : firstFile? searcher root (importCandidates searcher.config resolved) with
      | ok found => cases found <;> simp [importFault?, lookUp, hresolved, hfile, ih]
      | error e => simp [importFault?, lookUp, hresolved, hfile, ih]

/-- What looking up the imports of a file comes to. -/
theorem findImported_value {file importer text : String}
    (h : readImporter searcher root file = .ok (importer, text)) :
    (findImported searcher root file).value =
      .withSkipped ((extractImports text).filterMap (importedFile? searcher root importer))
        ((extractImports text).countP
          fun reference => (importFault? searcher root importer reference).isSome) := by
  simp [findImported, withImporter, h, importedFiles_value, List.length_filterMap_eq_countP]

/-- A path under which an import is looked up. -/
theorem mem_importCandidates_iff {config : Config} {resolved path : String} :
    path ∈ importCandidates config resolved ↔
      path = resolved ∨ (∃ extension ∈ config.queries.sourceExtensions,
        path = resolved ++ "." ++ extension) ∨
      ∃ extension ∈ config.queries.sourceExtensions, path = resolved ++ "/index." ++ extension := by
  simp [importCandidates, eq_comm (a := path)]

/-- **Import lookup end to end.**  The entries are those of the imports, in the order of the text and
with repetitions, and the status counts the imports whose lookup breaks off.  What an import
contributes depends on that import alone. -/
theorem findImported_lists_probed_files {file importer text : String}
    (h : readImporter searcher root file = .ok (importer, text)) :
    let extensions := searcher.config.queries.sourceExtensions
    let candidates (resolved : String) : List String :=
      resolved :: extensions.map (fun extension => resolved ++ "." ++ extension) ++
        extensions.map (fun extension => resolved ++ "/index." ++ extension)
    let imports := extractImports text
    let entry? := importedFile? searcher root importer
    let isSkipped reference := (importFault? searcher root importer reference).isSome
    (findImported searcher root file).value =
        .withSkipped (imports.filterMap entry?) (imports.countP isSkipped) ∧
      (∀ reference path, entry? reference = some path ↔
        ∃ resolved, reference.isRelative = true ∧
          resolveRelative? importer reference.specifier = some resolved ∧
          Finds searcher root (candidates resolved) path) ∧
      (∀ reference, isSkipped reference = true ↔
        ∃ resolved, reference.isRelative = true ∧
          resolveRelative? importer reference.specifier = some resolved ∧
          BreaksOff searcher root (candidates resolved)) ∧
      ∀ before reference after, imports = before ++ reference :: after → entry? reference = none →
        (findImported searcher root file).value.value =
          before.filterMap entry? ++ after.filterMap entry? := by
  intro extensions candidates imports entry? isSkipped
  have hvalue : (findImported searcher root file).value =
      .withSkipped (imports.filterMap entry?) (imports.countP isSkipped) := findImported_value h
  refine ⟨hvalue, ?_, ?_, ?_⟩
  · intro reference path
    simp only [← and_assoc, ← resolve?_eq_some_iff]
    exact importedFile?_eq_some_iff
  · intro reference
    simp only [← and_assoc, ← resolve?_eq_some_iff]
    exact importFault?_isSome_iff
  · intro before reference after himports hnone
    rw [hvalue, himports]
    simp [Outcome.withSkipped, hnone]

/-- A file with two imports of a directory and one that goes through a file. -/
def importSample : Searcher where
  world := .ofEntries [("/repo/a.ts", .text
    "import d from './dir'; import x from './a.ts/x'; import e from './dir'"),
    ("/repo/dir/index.ts", .text "")]
  config := {}

theorem findImported_lists_probed_files_importSample :
    readImporter importSample "/repo" "a.ts" =
        .ok ("a.ts", "import d from './dir'; import x from './a.ts/x'; import e from './dir'") ∧
      (findImported importSample "/repo" "a.ts").value =
        .withSkipped ["dir/index.ts", "dir/index.ts"] 1 := by
  have hread : readImporter importSample "/repo" "a.ts" =
      .ok ("a.ts", "import d from './dir'; import x from './a.ts/x'; import e from './dir'") := by
    decide +kernel
  refine ⟨hread, ?_⟩
  rw [(findImported_lists_probed_files hread).1]
  decide +kernel

/-! ## Files of base classes -/

/-- The scan for the files that mention the base of a class. -/
def baseScan (searcher : Searcher) (root : OsText) (extension : String × String) : Logged Outcome :=
  scanTexts searcher root (containsText ("class " ++ extension.2))

/-- What the scans for some bases find, put together. -/
theorem baseFiles_value (extensions : List (String × String)) :
    (baseFiles searcher root extensions).value =
      (extensions.flatMap fun extension => (baseScan searcher root extension).value.value,
        extensions.map fun extension => (baseScan searcher root extension).value.status) := by
  induction extensions with
  | nil => rfl
  | cons extension rest ih =>
    unfold baseFiles
    simp [baseScan, ih]

/-- The scans report one after the other. -/
theorem problems_baseFiles (extensions : List (String × String)) :
    (baseFiles searcher root extensions).problems =
      extensions.flatMap fun extension => (baseScan searcher root extension).problems := by
  induction extensions with
  | nil => rfl
  | cons extension rest ih =>
    unfold baseFiles
    simp [baseScan, ih]

/-- The imports of a file that lead to a related class. -/
def classFiles (importer text : String) : List String :=
  (extractImports text).filterMap (classFile? importer)

/-- What `findRelatedClasses` reports once the file is read: the imports that could not be examined,
then the problems of each scan. -/
theorem problems_findRelatedClasses {file importer text : String}
    (h : readImporter searcher root file = .ok (importer, text)) :
    (findRelatedClasses searcher root file).problems =
      ((faults (searcher.isResultFile root) (classFiles importer text)).map
        fun e => "find_related_classes: " ++ e.message) ++
      (extractClasses text).flatMap fun extension => (baseScan searcher root extension).problems := by
  simp [findRelatedClasses, withImporter, h, problems_selectFiles, problems_baseFiles, classFiles]

/-! ## Styles of sources -/

/-- The style files that one source imports. -/
def stylesOf (searcher : Searcher) (root : OsText) (source : String) : List String :=
  match searcher.readText (Path.join root source) with
  | .error _ => []
  | .ok text =>
    (styleTargets searcher.config source text).filter fun target =>
      isAccepted (searcher.isResultFile root target)

/-- The faults met while one source and its imports are examined. -/
def styleFaults (searcher : Searcher) (root : OsText) (source : String) : List SearchError :=
  match searcher.readText (Path.join root source) with
  | .error e => [e]
  | .ok text => faults (searcher.isResultFile root) (styleTargets searcher.config source text)

section Source

variable {source : String}

theorem styles_of_unreadable {e : SearchError}
    (h : searcher.readText (Path.join root source) = .error e) :
    stylesOf searcher root source = [] ∧ styleFaults searcher root source = [e] := by
  unfold stylesOf styleFaults
  rw [h]
  exact ⟨rfl, rfl⟩

theorem styles_of_read {text : String}
    (h : searcher.readText (Path.join root source) = .ok text) :
    (stylesOf searcher root source =
        (styleTargets searcher.config source text).filter fun target =>
          isAccepted (searcher.isResultFile root target)) ∧
      styleFaults searcher root source =
        faults (searcher.isResultFile root) (styleTargets searcher.config source text) := by
  unfold stylesOf styleFaults
  rw [h]
  exact ⟨rfl, rfl⟩

end Source

/-- Each source contributes its style files, and its faults are counted. -/
theorem styleFiles_value (operation : String) (sources : List String) :
    (styleFiles searcher root operation sources).value =
      (sources.flatMap (stylesOf searcher root),
        (sources.flatMap (styleFaults searcher root)).length) := by
  induction sources with
  | nil => rfl
  | cons source rest ih =>
    unfold styleFiles
    cases htext : searcher.readText (Path.join root source) with
    | error e =>
      obtain ⟨hstyles, hfaults⟩ := styles_of_unreadable htext
      simp [hstyles, hfaults, ih, Nat.add_comm]
    | ok text =>
      obtain ⟨hstyles, hfaults⟩ := styles_of_read htext
      simp [hstyles, hfaults, ih, selectFiles_value]

/-- Each fault of a source is reported once. -/
theorem problems_styleFiles (operation : String) (sources : List String) :
    (styleFiles searcher root operation sources).problems =
      (sources.flatMap (styleFaults searcher root)).map fun e => operation ++ ": " ++ e.message := by
  induction sources with
  | nil => rfl
  | cons source rest ih =>
    unfold styleFiles
    cases htext : searcher.readText (Path.join root source) with
    | error e => simp [(styles_of_unreadable htext).2, ih]
    | ok text => simp [(styles_of_read htext).2, ih, problems_selectFiles]

/-- The search for the sources of a component. -/
def sourceSearch (searcher : Searcher) (root : OsText) (component : String) : Logged Outcome :=
  findByName searcher root
    ("**/" ++ Glob.escape component ++ "." ++ searcher.config.sourceExtensionSet)

/-- If the sources of a component cannot be searched for, this is all that `findStyles` reports. -/
theorem findStyles_of_failed {component : String}
    (h : (sourceSearch searcher root component).value.status = .failed) :
    (findStyles searcher root component).value = .failed ∧
      (findStyles searcher root component).problems =
        (sourceSearch searcher root component).problems := by
  unfold sourceSearch at h
  constructor
  · simp [findStyles, h]
  · simp [findStyles, sourceSearch, h]

/-- What `findStyles` finds once the sources are searched for. -/
theorem findStyles_value {component : String}
    (h : (sourceSearch searcher root component).value.status ≠ .failed) :
    (findStyles searcher root component).value =
      .withSkipped ((sourceSearch searcher root component).value.value.flatMap
          (stylesOf searcher root))
        ((sourceSearch searcher root component).value.status.skipped +
          ((sourceSearch searcher root component).value.value.flatMap
            (styleFaults searcher root)).length) := by
  unfold sourceSearch at h
  simp [findStyles, sourceSearch, h, styleFiles_value]

/-- What `findStyles` reports once the sources are searched for. -/
theorem problems_findStyles {component : String}
    (h : (sourceSearch searcher root component).value.status ≠ .failed) :
    (findStyles searcher root component).problems =
      (sourceSearch searcher root component).problems ++
        (styleFiles searcher root "find_style_dependencies"
          (sourceSearch searcher root component).value.value).problems := by
  unfold sourceSearch at h
  simp [findStyles, sourceSearch, h]

end CodeSearch
