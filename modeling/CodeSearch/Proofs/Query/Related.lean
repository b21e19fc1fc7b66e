import CodeSearch.Proofs.Import.Resolution
import CodeSearch.Proofs.Query.Ledger
import CodeSearch.Proofs.Query.Targets
import Mathlib.Algebra.Order.Ring.Nat
import Mathlib.Data.List.Basic
import Mathlib.Data.List.Induction

/-!
# The classes related to a file

What is related to a file is found in two ways: its imports are looked up, each under one path
(`MeansClass`), and the text of every file is searched for the base of each of its classes.  The files
are listed in this order, each where it was found first (`ListsFirstSeen`), and the status adds up the
imports that could not be examined and what each search missed.
-/

namespace CodeSearch

/-! ## Listing what was found first -/

/-- What was found is listed, each path once, in the order in which it was found first. -/
structure ListsFirstSeen (found listed : List String) : Prop where
  nodup : listed.Nodup
  mem_iff : ∀ path, path ∈ listed ↔ path ∈ found
  ordered : listed.Pairwise fun first second => found.idxOf first < found.idxOf second

/-- What is found last is listed last, unless it was found before. -/
theorem eraseDups_concat (found : List String) (path : String) :
    (found ++ [path]).eraseDups =
      if path ∈ found then found.eraseDups else found.eraseDups ++ [path] := by
  rw [List.eraseDups_append]
  split
  · rename_i h
    simp [List.removeAll, h]
  · rename_i h
    simp [List.removeAll, h, List.eraseDups_cons]

theorem pairwise_idxOf_eraseDups (found : List String) :
    found.eraseDups.Pairwise fun first second => found.idxOf first < found.idxOf second := by
  induction found using List.reverseRecOn with
  | nil => simp
  | append_singleton found path ih =>
    -- what was found before keeps its place
    have hkept : found.eraseDups.Pairwise fun first second =>
        (found ++ [path]).idxOf first < (found ++ [path]).idxOf second := by
      refine ih.imp_of_mem fun hfirst hsecond hlt => ?_
      rw [List.mem_eraseDups] at hfirst hsecond
      rwa [List.idxOf_append_of_mem hfirst, List.idxOf_append_of_mem hsecond]
    rw [eraseDups_concat]
    split
    · exact hkept
    · rename_i hnew
      refine List.pairwise_append.2 ⟨hkept, List.pairwise_singleton .., ?_⟩
      intro first hfirst second hsecond
      rw [List.mem_eraseDups] at hfirst
      rw [List.mem_singleton.1 hsecond, List.idxOf_append_of_mem hfirst,
        List.idxOf_append_of_notMem hnew]
      have hlt := List.idxOf_lt_length_of_mem hfirst
      omega

theorem listsFirstSeen_eraseDups (found : List String) :
    ListsFirstSeen found found.eraseDups where
  nodup := (pairwise_idxOf_eraseDups found).imp fun hlt heq => by simp [heq] at hlt
  mem_iff _ := List.mem_eraseDups
  ordered := pairwise_idxOf_eraseDups found

/-! ## Imports of classes -/

/-- The path under which an import of a class is looked up: what it resolves to, with `.ts` after a name
without extension. -/
def MeansClass (importer : String) (reference : ImportReference) (path : String) : Prop :=
  ∃ resolved, reference.isRelative = true ∧
    resolveRelative? importer reference.specifier = some resolved ∧
    ((Path.HasExtension resolved ∧ path = resolved) ∨
      (¬ Path.HasExtension resolved ∧ path = resolved ++ ".ts"))

theorem classFile?_eq_some_iff {importer path : String} {reference : ImportReference}
    (h : Path.IsNormal importer) :
    classFile? importer reference = some path ↔ MeansClass importer reference path := by
  unfold classFile? MeansClass
  rw [Option.map_eq_some_iff]
  refine exists_congr fun resolved => ?_
  rw [resolve?_eq_some_iff, and_assoc]
  refine and_congr_right fun _ => and_congr_right fun hresolved => ?_
  rw [← (isNormal_of_resolveRelative? h hresolved).hasExtension_iff]
  split
  · rename_i hextension
    simp [hextension, eq_comm]
  · rename_i hextension
    simp [hextension, eq_comm]

variable {searcher : Searcher} {root : OsText}

/-- A file is read under a name without detours. -/
theorem isNormal_of_readImporter {file importer text : String}
    (h : readImporter searcher root file = .ok (importer, text)) : Path.IsNormal importer := by
  unfold readImporter at h
  dsimp only at h
  split at h
  · cases h
  · rename_i relative hrelative
    cases hread : searcher.readText (targetPath root file) with
    | error e =>
      rw [hread] at h
      cases h
    | ok read =>
      rw [hread] at h
      obtain ⟨rfl, -⟩ := Prod.mk.inj (Except.ok.inj h)
      exact Path.isNormal_of_relativePath hrelative

/-! ## What searches miss -/

/-- What a search that is part of a query adds to what the query skipped. -/
def ScanStatus.missed : ScanStatus → Nat
  | complete => 0
  | incomplete skipped => skipped
  | failed => 1

/-- A search misses as much as it reports. -/
theorem Outcome.Accounts.missed_eq {outcome : Outcome} {problems : Nat}
    (h : outcome.Accounts problems) : outcome.status.missed = problems := by
  cases hstatus : outcome.status with
  | complete => exact (h.complete_iff.1 hstatus).symm
  | incomplete skipped => exact (h.skipped_eq skipped hstatus).1
  | failed => exact (h.failed_eq hstatus).1.symm

/-- A search for a text misses nothing if it is complete. -/
theorem missed_findByContent_eq_zero_iff (searcher : Searcher) (root : OsText) (needle : String) :
    (findByContent searcher root needle).value.status.missed = 0 ↔
      (findByContent searcher root needle).value.status = .complete := by
  have hsearch := scanTexts_balanced searcher root (containsText needle)
  exact hsearch.missed_eq ▸ hsearch.complete_iff.symm

/-! ## The query -/

/-- What looking for related classes comes to. -/
theorem findRelatedClasses_value {file importer text : String}
    (h : readImporter searcher root file = .ok (importer, text)) :
    (findRelatedClasses searcher root file).value =
      let imports := extractImports text
      let scans := (extractClasses text).map fun extension =>
        (findByContent searcher root ("class " ++ extension.2)).value
      let found := imports.filterMap (examined? searcher root (classFile? importer)) ++
        scans.flatMap Outcome.value
      ⟨found.eraseDups, .ofSkipped (imports.countP (isUnexamined searcher root (classFile? importer)) +
        (scans.map fun scan => scan.status.missed).sum)⟩ := by
  have hmissed (extension : String × String) :
      (baseScan searcher root extension).problems.length =
        (baseScan searcher root extension).value.status.missed :=
    (scanTexts_balanced searcher root _).missed_eq.symm
  have hstatus := findRelatedClasses_status searcher root h
  rw [classFiles, length_faults_filterMap_target, List.length_flatMap] at hstatus
  simp only [hmissed] at hstatus
  have hvalue : (findRelatedClasses searcher root file).value.value =
      ((extractImports text).filterMap (examined? searcher root (classFile? importer)) ++
        (extractClasses text).flatMap fun extension =>
          (baseScan searcher root extension).value.value).eraseDups := by
    simp only [findRelatedClasses, withImporter, h, Logged.value_bind, Logged.value_pure,
      selectFiles_value, baseFiles_value, filter_filterMap_target]
  dsimp only
  rw [List.flatMap_map, List.map_map]
  exact congrArg₂ Outcome.mk hvalue hstatus

/-- **Related classes, each where it was found first.**  The files are those that the imports mean and
then those that mention the bases, the first occurrence of each.  The status counts the imports whose
path could not be examined and adds what the searches missed; it is complete if there is nothing of
either, and never that of a failure. -/
theorem findRelatedClasses_lists_first_seen {file importer text : String}
    (h : readImporter searcher root file = .ok (importer, text)) :
    let imports := extractImports text
    let entry? := examined? searcher root (classFile? importer)
    let isFailed := isUnexamined searcher root (classFile? importer)
    let scans := (extractClasses text).map fun extension =>
      (findByContent searcher root ("class " ++ extension.2)).value
    let found := imports.filterMap entry? ++ scans.flatMap Outcome.value
    let related := (findRelatedClasses searcher root file).value
    related = ⟨found.eraseDups, .ofSkipped (imports.countP isFailed +
        (scans.map fun scan => scan.status.missed).sum)⟩ ∧
      ListsFirstSeen found related.value ∧
      (related.status = .complete ↔
        (∀ reference ∈ imports, isFailed reference = false) ∧
          ∀ scan ∈ scans, scan.status = .complete) ∧
      related.status ≠ .failed ∧
      (∀ reference path, entry? reference = some path ↔
        MeansClass importer reference path ∧ IsFound searcher root path) ∧
      ∀ reference, isFailed reference = true ↔
        ∃ path, MeansClass importer reference path ∧ IsRefused searcher root path := by
  intro imports entry? isFailed scans found related
  have hvalue : related = ⟨found.eraseDups, .ofSkipped (imports.countP isFailed +
      (scans.map fun scan => scan.status.missed).sum)⟩ := findRelatedClasses_value h
  have hcomplete : ∀ scan ∈ scans, scan.status.missed = 0 ↔ scan.status = .complete := by
    intro scan hscan
    obtain ⟨extension, -, rfl⟩ := List.mem_map.1 hscan
    exact missed_findByContent_eq_zero_iff searcher root _
  refine ⟨hvalue, ?_, ?_, ?_, ?_, ?_⟩
  · rw [hvalue]
    exact listsFirstSeen_eraseDups found
  · rw [hvalue, ScanStatus.ofSkipped_eq_complete_iff, Nat.add_eq_zero_iff, List.countP_eq_zero,
      List.sum_eq_zero_iff_forall_eq_nat, List.forall_mem_map]
    simp only [Bool.not_eq_true]
    exact and_congr_right fun _ => forall₂_congr hcomplete
  · rw [hvalue]
    exact ScanStatus.ofSkipped_ne_failed _
  · intro reference path
    rw [examined?_eq_some_iff, classFile?_eq_some_iff (isNormal_of_readImporter h)]
  · intro reference
    simp only [isFailed, isUnexamined_iff, classFile?_eq_some_iff (isNormal_of_readImporter h)]

/-- The text of a file with two classes, the base of the second being the first. -/
def classText : String :=
  "import b from './b';import c from './b';import x from './b.ts/x';" ++
    "class B extends A;class C extends B"

/-- A file that imports another one twice and a path through it, beside a file that is no text. -/
def classSample : Searcher where
  world := .ofEntries [("/repo/a.ts", .text classText), ("/repo/b.ts", .text "class A"),
    ("/repo/raw", .file (some ⟨#[255]⟩) default)]
  config := {}

/-- The first scan finds what was imported and the second one the file itself; each of them misses the
file that is no text. -/
theorem findRelatedClasses_lists_first_seen_classSample :
    readImporter classSample "/repo" "a.ts" = .ok ("a.ts", classText) ∧
      (findRelatedClasses classSample "/repo" "a.ts").value = ⟨["b.ts", "a.ts"], .incomplete 3⟩ := by
  have hread : readImporter classSample "/repo" "a.ts" = .ok ("a.ts", classText) := by
    decide +kernel
  refine ⟨hread, ?_⟩
  rw [(findRelatedClasses_lists_first_seen hread).1]
  decide +kernel

end CodeSearch
