import CodeSearch.Proofs.Query.Imports

/-!
# The status of an outcome accounts for the reported problems

Queries count what they skip in three ways: with a counter of their own, by the length of a list of
problems, and by absorbing the status of a scan within them.  `Outcome.Accounts` is what all of them
keep: the status is a function of the number of problems that were reported, and a scan that failed
reported one.  `run_status_counts_problems` has it for every request.

Absorbing is sound because it is only ever applied to outcomes that account for their own problems
(`Outcome.Accounts.absorb`): then the rule that a failed scan counts as one adds exactly what the scan
reported.
-/

namespace CodeSearch

/-- The status of an outcome owns up to a number of problems. -/
structure Outcome.Accounts (outcome : Outcome) (problems : Nat) : Prop where
  /-- Nothing was skipped exactly when there is no problem. -/
  complete_iff : outcome.status = .complete ↔ problems = 0
  /-- What was skipped is what was reported. -/
  skipped_eq : ∀ skipped, outcome.status = .incomplete skipped → skipped = problems ∧ 1 ≤ problems
  /-- A failure is reported once and leaves nothing found. -/
  failed_eq : outcome.status = .failed → problems = 1 ∧ outcome.value = []

namespace ScanStatus

theorem ofSkipped_of_pos {skipped : Nat} (h : 1 ≤ skipped) :
    ofSkipped skipped = .incomplete skipped :=
  if_neg (by omega)

theorem skipped_ofSkipped (skipped : Nat) : (ofSkipped skipped).skipped = skipped := by
  unfold ofSkipped
  split
  · rename_i h
    exact h.symm
  · rfl

theorem absorb_complete (status : ScanStatus) : status.absorb .complete = status := by
  cases status <;> rfl

/-- A scan that left something out adds at least one to what was skipped before. -/
theorem ofSkipped_absorb (skipped : Nat) {status : ScanStatus} (h : status ≠ .complete) :
    (ofSkipped skipped).absorb status = .incomplete (skipped + max status.skipped 1) := by
  by_cases h0 : skipped = 0
  · subst h0
    cases status with
    | complete => exact absurd rfl h
    | _ => rfl
  · rw [ofSkipped_of_pos (by omega)]
    cases status with
    | complete => exact absurd rfl h
    | _ => rfl

end ScanStatus

namespace Outcome

theorem accounts_withSkipped (value : List String) (skipped : Nat) :
    (withSkipped value skipped).Accounts skipped := by
  unfold withSkipped ScanStatus.ofSkipped
  by_cases h : skipped = 0
  · exact ⟨by simp [h], by simp [h], by simp [h]⟩
  · refine ⟨by simp [h], ?_, by simp [h]⟩
    intro n hn
    rw [if_neg h, ScanStatus.incomplete.injEq] at hn
    omega

theorem accounts_of_status {outcome : Outcome} {problems : Nat}
    (h : outcome.status = .ofSkipped problems) : outcome.Accounts problems := by
  have heq : outcome = withSkipped outcome.value problems := by
    rw [withSkipped, ← h]
  rw [heq]
  exact accounts_withSkipped _ _

theorem accounts_complete (value : List String) : (complete value).Accounts 0 :=
  accounts_withSkipped value 0

theorem accounts_failed : failed.Accounts 1 :=
  ⟨by simp [failed], by simp [failed], by simp [failed]⟩

/-- An outcome that did not fail has the status for the problems that it accounts for. -/
theorem Accounts.status_eq {outcome : Outcome} {problems : Nat} (h : outcome.Accounts problems)
    (hne : outcome.status ≠ .failed) : outcome.status = .ofSkipped problems := by
  unfold ScanStatus.ofSkipped
  cases hstatus : outcome.status with
  | complete => rw [if_pos (h.complete_iff.1 hstatus)]
  | incomplete skipped =>
    obtain ⟨rfl, hpos⟩ := h.skipped_eq skipped hstatus
    rw [if_neg (by omega)]
  | failed => exact absurd hstatus hne

/-- Absorbing an outcome that accounts for its problems adds just those. -/
theorem Accounts.absorb {outcome : Outcome} {problems : Nat} (h : outcome.Accounts problems)
    (skipped : Nat) :
    (ScanStatus.ofSkipped skipped).absorb outcome.status = .ofSkipped (skipped + problems) := by
  by_cases hcomplete : outcome.status = .complete
  · rw [hcomplete, h.complete_iff.1 hcomplete, ScanStatus.absorb_complete, Nat.add_zero]
  · have hpos : 1 ≤ problems := by
      have hne : problems ≠ 0 := fun h0 => hcomplete (h.complete_iff.2 h0)
      omega
    rw [ScanStatus.ofSkipped_absorb skipped hcomplete, ScanStatus.ofSkipped_of_pos (by omega)]
    -- a failed scan skipped nothing itself, and reported one problem
    cases hstatus : outcome.status with
    | complete => exact absurd hstatus hcomplete
    | incomplete n =>
      obtain ⟨rfl, -⟩ := h.skipped_eq n hstatus
      rw [ScanStatus.skipped, Nat.max_eq_left hpos]
    | failed =>
      obtain ⟨rfl, -⟩ := h.failed_eq hstatus
      rfl

end Outcome

/-! ## Runs of queries -/

namespace Logged

/-- The outcome of a run accounts for the problems that the run reported. -/
def Balanced (run : Logged Outcome) : Prop := run.value.Accounts run.problems.length

/-- A query that cannot be carried out reports why and fails. -/
theorem balanced_refused (text : String) :
    Balanced (do Logged.problem text; pure .failed) := by
  unfold Balanced
  rw [problems_bind]
  exact Outcome.accounts_failed

/-- Reporting progress about an outcome keeps a run balanced. -/
theorem Balanced.andReport {run : Logged Outcome} (h : run.Balanced) {report : Outcome → Logged Unit}
    (hreport : ∀ outcome, (report outcome).problems = []) :
    Balanced (do let outcome ← run; report outcome; pure outcome) := by
  unfold Balanced
  rw [problems_bind, problems_bind, hreport, problems_pure, List.append_nil, List.append_nil]
  exact h

/-- A run that counts its problems has the status for their number. -/
theorem balanced_of_count {run : Logged (List String × Nat)}
    (h : run.value.2 = run.problems.length) (report : List String × Nat → String) :
    Balanced (do
      let result ← run
      Logged.progress (report result)
      pure (.withSkipped result.1 result.2)) := by
  unfold Balanced
  rw [problems_bind, problems_bind, problems_progress, problems_pure, List.append_nil,
    List.append_nil, ← h]
  exact Outcome.accounts_withSkipped _ _

end Logged

open Logged

variable (searcher : Searcher) (root : OsText)

/-- A scan reports what its status counts. -/
theorem scanFiles_balanced (operation : String) (keep? : String → Except SearchError Bool)
    (describe : SearchError → String) :
    (scanFiles searcher root operation keep? describe).Balanced := by
  unfold Logged.Balanced
  cases h : searcher.enumerate root allFiles with
  | error e =>
    rw [scanFiles_value_of_error _ _ _ _ _ h, problems_scanFiles_of_error _ _ _ _ _ h]
    exact Outcome.accounts_failed
  | ok walk =>
    rw [scanFiles_value_of_ok _ _ _ _ _ h, problems_scanFiles_of_ok _ _ _ _ _ h,
      List.length_append, List.length_map, List.length_map]
    exact Outcome.accounts_withSkipped _ _

theorem scanTexts_balanced (holds : String → Bool) : (scanTexts searcher root holds).Balanced :=
  scanFiles_balanced _ _ _ _ _

theorem findByName_balanced (pattern : String) : (findByName searcher root pattern).Balanced := by
  unfold findByName
  cases searcher.enumerate root pattern with
  | error e => exact balanced_refused _
  | ok walk =>
    unfold Logged.Balanced
    simp only [problems_bind, problems_reportProblems, problems_progress, problems_pure,
      List.append_nil, List.length_map]
    exact Outcome.accounts_withSkipped _ _

theorem findByRegex_balanced (pattern : String) : (findByRegex searcher root pattern).Balanced := by
  unfold findByRegex
  cases compileRegex pattern with
  | error e => exact balanced_refused _
  | ok regex => exact (scanTexts_balanced _ _ _).andReport fun _ => rfl

theorem findApiUsage_balanced (endpoint : String) :
    (findApiUsage searcher root endpoint).Balanced := by
  unfold findApiUsage
  dsimp only
  split
  · exact (scanTexts_balanced _ _ _).andReport fun _ => rfl
  · exact balanced_refused _

theorem findRecent_balanced (days : UInt64) : (findRecent searcher root days).Balanced := by
  unfold Logged.Balanced
  rw [findRecent_value, problems_findRecent]
  exact scanFiles_balanced _ _ _ _ _

theorem findExternal_balanced (name : String) : (findExternal searcher root name).Balanced := by
  unfold findExternal
  dsimp only
  split
  · refine balanced_of_count ?_ _
    rw [selectFiles_value, problems_selectFiles, List.length_map]
  · exact balanced_refused _

theorem findRelatedTests_balanced (target : String) :
    (findRelatedTests searcher root target).Balanced := by
  unfold findRelatedTests
  dsimp only
  split
  · split
    · exact balanced_refused _
    · exact balanced_refused _
  · split
    · exact balanced_refused _
    · exact findByName_balanced _ _ _

/-- A query on a file is balanced if it is once the file is read. -/
theorem withImporter_balanced {file operation : String} {query : String → String → Logged Outcome}
    (h : ∀ relative text, (query relative text).Balanced) :
    (withImporter searcher root file operation query).Balanced := by
  unfold withImporter
  split
  · exact balanced_refused _
  · exact h _ _

theorem findImported_balanced (file : String) : (findImported searcher root file).Balanced := by
  refine withImporter_balanced _ _ fun importer text => balanced_of_count ?_ _
  rw [importedFiles_value, problems_importedFiles, List.length_map]

theorem findDependencies_balanced (file : String) :
    (findDependencies searcher root file).Balanced := by
  refine withImporter_balanced _ _ fun importer text => ?_
  exact Outcome.accounts_complete _

/-- Absorbing the outcomes of several scans adds up what they reported. -/
theorem foldl_absorb_statuses {scans : List (Logged Outcome)} (h : ∀ scan ∈ scans, scan.Balanced)
    (skipped : Nat) :
    (scans.map fun scan => scan.value.status).foldl ScanStatus.absorb (.ofSkipped skipped) =
      .ofSkipped (skipped + (scans.flatMap fun scan => scan.problems).length) := by
  induction scans generalizing skipped with
  | nil => rfl
  | cons scan rest ih =>
    have hrest : ∀ other ∈ rest, other.Balanced := fun other hother => h other (by simp [hother])
    rw [List.map_cons, List.foldl_cons, (h scan (by simp)).absorb skipped, ih hrest,
      List.flatMap_cons, List.length_append, Nat.add_assoc]

/-- The status of `findRelatedClasses` once the file is read. -/
theorem findRelatedClasses_status {file importer text : String}
    (h : readImporter searcher root file = .ok (importer, text)) :
    (findRelatedClasses searcher root file).value.status =
      .ofSkipped ((faults (searcher.isResultFile root) (classFiles importer text)).length +
        ((extractClasses text).flatMap fun extension =>
          (baseScan searcher root extension).problems).length) := by
  have hscans : ∀ scan ∈ (extractClasses text).map (baseScan searcher root), scan.Balanced := by
    intro scan hscan
    obtain ⟨extension, -, rfl⟩ := List.mem_map.1 hscan
    exact scanTexts_balanced _ _ _
  -- each scan for a base class adds just the problems that it reported
  have hfold := foldl_absorb_statuses hscans
    (faults (searcher.isResultFile root) (classFiles importer text)).length
  rw [List.map_map, List.flatMap_map] at hfold
  simp only [findRelatedClasses, withImporter, h, Logged.value_bind, Logged.value_pure,
    selectFiles_value, baseFiles_value]
  exact hfold

theorem findRelatedClasses_balanced (file : String) :
    (findRelatedClasses searcher root file).Balanced := by
  cases h : readImporter searcher root file with
  | error e =>
    have hrefused := balanced_refused ("find_related_classes" ++ ": " ++ e.message)
    simpa only [findRelatedClasses, withImporter, h] using hrefused
  | ok read =>
    apply Outcome.accounts_of_status
    rw [findRelatedClasses_status searcher root h, problems_findRelatedClasses h,
      List.length_append, List.length_map]

theorem sourceSearch_balanced (component : String) :
    (sourceSearch searcher root component).Balanced :=
  findByName_balanced searcher root _

/-- The status of `findStyles` once the sources are searched for. -/
theorem findStyles_status {component : String}
    (h : (sourceSearch searcher root component).value.status ≠ .failed) :
    (findStyles searcher root component).value.status =
      .ofSkipped ((sourceSearch searcher root component).problems.length +
        (styleFiles searcher root "find_style_dependencies"
          (sourceSearch searcher root component).value.value).problems.length) := by
  have hsearch := (sourceSearch_balanced searcher root component).status_eq h
  rw [findStyles_value h, problems_styleFiles, List.length_map, Outcome.withSkipped, hsearch,
    ScanStatus.skipped_ofSkipped]

theorem findStyles_balanced (component : String) : (findStyles searcher root component).Balanced := by
  by_cases h : (sourceSearch searcher root component).value.status = .failed
  · -- the failure is that of the search, which has reported it
    have hsearch := sourceSearch_balanced searcher root component
    obtain ⟨hvalue, hproblems⟩ := findStyles_of_failed h
    unfold Logged.Balanced
    rw [hvalue, hproblems, (hsearch.failed_eq h).1]
    exact Outcome.accounts_failed
  · apply Outcome.accounts_of_status
    rw [findStyles_status searcher root h, problems_findStyles h,
      List.length_append]

/-- Every request is balanced. -/
theorem run_balanced (request : Request) : (request.run searcher root).Balanced := by
  obtain ⟨tool, argument⟩ := request
  cases tool with
  | findFilesByName => exact findByName_balanced _ _ _
  | findFilesByContent => exact (scanTexts_balanced _ _ _).andReport fun _ => rfl
  | findFilesByRegex => exact findByRegex_balanced _ _ _
  | findImportedFiles => exact findImported_balanced _ _ _
  | findDependencies => exact findDependencies_balanced _ _ _
  | findRelatedClasses => exact findRelatedClasses_balanced _ _ _
  | findStyleDependencies => exact findStyles_balanced _ _ _
  | findRelatedTests => exact findRelatedTests_balanced _ _ _
  | findComponentUsage => exact (scanTexts_balanced _ _ _).andReport fun _ => rfl
  | findApiUsage => exact findApiUsage_balanced _ _ _
  | findFunctionDefinition => exact (scanTexts_balanced _ _ _).andReport fun _ => rfl
  | findRecentlyModifiedFiles => exact findRecent_balanced _ _ _
  | findExternalDependency => exact findExternal_balanced _ _ _

/-- **Status ledger.**  Whatever is asked for, the status is complete exactly when no problem was
reported, it counts every reported problem once, and a failure is reported once and finds nothing.  A
query that is composed of others counts what these report: `findRelatedClasses` every scan for a base
class, and `findStyles` its search for sources. -/
theorem run_status_counts_problems (request : Request) :
    let run := request.run searcher root
    let problems := run.log.problems.length
    ((run.value.status = .complete ↔ problems = 0) ∧
      (∀ skipped, run.value.status = .incomplete skipped → skipped = problems ∧ 1 ≤ problems) ∧
      (run.value.status = .failed → problems = 1 ∧ run.value.value = [])) ∧
    (∀ file importer text, readImporter searcher root file = .ok (importer, text) →
      (findRelatedClasses searcher root file).value.status =
        .ofSkipped ((faults (searcher.isResultFile root) (classFiles importer text)).length +
          ((extractClasses text).flatMap fun extension =>
            (baseScan searcher root extension).log.problems).length)) ∧
    ∀ component, (sourceSearch searcher root component).value.status ≠ .failed →
      (findStyles searcher root component).value.status =
        .ofSkipped ((sourceSearch searcher root component).log.problems.length +
          (styleFiles searcher root "find_style_dependencies"
            (sourceSearch searcher root component).value.value).log.problems.length) := by
  have hrun := run_balanced searcher root request
  exact ⟨⟨hrun.complete_iff, hrun.skipped_eq, hrun.failed_eq⟩,
    fun file importer text h => findRelatedClasses_status searcher root h,
    fun component h => findStyles_status searcher root h⟩

/-- A class file with an import through a file, beside a file that is no text. -/
def ledgerSample : Searcher where
  world := .ofEntries [("/a.ts", .text "import x from './b/x.css';class A extends B"),
    ("/b", .text ""), ("/raw", .file (some ⟨#[255]⟩) default)]
  config := {}

theorem run_status_counts_problems_ledgerSample :
    (readImporter ledgerSample "/" "a.ts" =
        .ok ("a.ts", "import x from './b/x.css';class A extends B") ∧
      (findRelatedClasses ledgerSample "/" "a.ts").value.status = .incomplete 2) ∧
    (sourceSearch ledgerSample "/" "a").value.status ≠ .failed ∧
      (findStyles ledgerSample "/" "a").value.status = .incomplete 1 := by
  have hrun := run_status_counts_problems ledgerSample "/" ⟨.findRelatedClasses, "a.ts"⟩
  obtain ⟨-, hclasses, hstyles⟩ := hrun
  have hread : readImporter ledgerSample "/" "a.ts" =
      .ok ("a.ts", "import x from './b/x.css';class A extends B") := by
    decide +kernel
  have hsearch : (sourceSearch ledgerSample "/" "a").value.status ≠ .failed := by
    decide +kernel
  refine ⟨⟨hread, ?_⟩, hsearch, ?_⟩
  · rw [hclasses _ _ _ hread]
    decide +kernel
  · rw [hstyles _ hsearch]
    decide +kernel

end CodeSearch
