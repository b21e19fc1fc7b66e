import CodeSearch.Query.Dispatch
import CodeSearch.Tree.Edit

/-!
# What a query finds and what it reports

The parts that queries are put together from, each with what it yields and which problems it reports.
`selectFiles` keeps exactly the files that are accepted and reports exactly those that could not be
decided, whatever the others are.
-/

namespace CodeSearch

/-! ## Problems in logs -/

namespace Log

theorem problems_append (first second : Log) :
    (first ++ second).problems = first.problems ++ second.problems := by
  simp [problems, texts]

@[simp] theorem problems_nil : problems [] = [] := rfl

end Log

namespace Logged

variable {α β : Type}

/-- The problems that were reported while a value was found. -/
def problems (run : Logged α) : List String := run.log.problems

@[simp] theorem problems_pure (a : α) : (pure a : Logged α).problems = [] := rfl

@[simp] theorem problems_bind (run : Logged α) (next : α → Logged β) :
    (run >>= next).problems = run.problems ++ (next run.value).problems :=
  Log.problems_append _ _

@[simp] theorem value_map (f : α → β) (run : Logged α) : (f <$> run).value = f run.value := rfl

@[simp] theorem problems_map (f : α → β) (run : Logged α) :
    (f <$> run).problems = run.problems := by
  rw [← bind_pure_comp, problems_bind]
  exact List.append_nil _

@[simp] theorem problems_progress (text : String) : (progress text).problems = [] := rfl

@[simp] theorem problems_problem (text : String) : (problem text).problems = [text] := rfl

end Logged

@[simp] theorem problems_reportCount (operation subject : String) (outcome : Outcome) :
    (reportCount operation subject outcome).problems = [] := rfl

/-- Each problem of a walk is reported once. -/
@[simp] theorem problems_reportProblems (walk : Walk) :
    (reportProblems walk).problems = walk.problems.map ("walk: " ++ ·) := by
  unfold reportProblems
  induction walk.problems with
  | nil => rfl
  | cons text rest ih =>
    show (Logged.problem ("walk: " ++ text) >>= fun _ =>
      rest.forM fun text => Logged.problem ("walk: " ++ text)).problems = _
    rw [Logged.problems_bind, ih]
    rfl

@[simp] theorem Outcome.value_withSkipped (value : List String) (skipped : Nat) :
    (Outcome.withSkipped value skipped).value = value := rfl

@[simp] theorem Outcome.status_withSkipped (value : List String) (skipped : Nat) :
    (Outcome.withSkipped value skipped).status = .ofSkipped skipped := rfl

theorem ScanStatus.ofSkipped_eq_complete_iff {skipped : Nat} :
    ofSkipped skipped = .complete ↔ skipped = 0 := by
  unfold ofSkipped
  by_cases h : skipped = 0 <;> simp [h]

theorem ScanStatus.ofSkipped_ne_failed (skipped : Nat) : ofSkipped skipped ≠ .failed := by
  unfold ofSkipped
  by_cases h : skipped = 0 <;> simp [h]

/-! ## Decisions on files -/

/-- Whether a decision accepts. -/
def isAccepted : Except SearchError Bool → Bool
  | .ok kept => kept
  | .error _ => false

/-- Why something could not be decided. -/
def fault? {α : Type} : Except SearchError α → Option SearchError
  | .ok _ => none
  | .error e => some e

@[simp] theorem isAccepted_ok (kept : Bool) : isAccepted (.ok kept) = kept := rfl

@[simp] theorem isAccepted_error (e : SearchError) : isAccepted (.error e) = false := rfl

@[simp] theorem fault?_ok {α : Type} (a : α) : fault? (.ok a) = none := rfl

@[simp] theorem fault?_error {α : Type} (e : SearchError) :
    fault? (.error e : Except SearchError α) = some e := rfl

/-- The faults met while some files are decided, in order. -/
def faults (decide : String → Except SearchError Bool) (files : List String) : List SearchError :=
  files.filterMap fun file => fault? (decide file)

variable (keep? : String → Except SearchError Bool) (describe : SearchError → String)

/-- The accepted files are kept in order, and the faults are counted. -/
theorem selectFiles_value (files : List String) :
    (selectFiles keep? describe files).value =
      (files.filter fun file => isAccepted (keep? file), (faults keep? files).length) := by
  induction files with
  | nil => rfl
  | cons file rest ih =>
    unfold selectFiles
    cases hfile : keep? file with
    | ok kept =>
      have hfaults : faults keep? (file :: rest) = faults keep? rest := by
        simp [faults, hfile]
      cases kept <;> simp [hfile, hfaults, ih]
    | error e =>
      have hfaults : faults keep? (file :: rest) = e :: faults keep? rest := by
        simp [faults, hfile]
      simp [hfile, hfaults, ih]

/-- Each fault is reported once, in its own words. -/
theorem problems_selectFiles (files : List String) :
    (selectFiles keep? describe files).problems = (faults keep? files).map describe := by
  induction files with
  | nil => rfl
  | cons file rest ih =>
    unfold selectFiles
    cases hfile : keep? file with
    | ok kept => simp [faults, hfile, ih]
    | error e => simp [faults, hfile, ih]

/-! ## Scans -/

variable (searcher : Searcher) (root : OsText) (operation : String)

/-- A scan that can start yields the accepted files of the walk. -/
theorem scanFiles_value_of_ok {walk : Walk} (h : searcher.enumerate root allFiles = .ok walk) :
    (scanFiles searcher root operation keep? describe).value =
      .withSkipped (walk.files.filter fun file => isAccepted (keep? file))
        (walk.problems.length + (faults keep? walk.files).length) := by
  simp [scanFiles, h, selectFiles_value]

/-- A scan that can start reports the problems of the walk and then its own. -/
theorem problems_scanFiles_of_ok {walk : Walk} (h : searcher.enumerate root allFiles = .ok walk) :
    (scanFiles searcher root operation keep? describe).problems =
      walk.problems.map ("walk: " ++ ·) ++ (faults keep? walk.files).map describe := by
  simp [scanFiles, h, problems_selectFiles]

/-- A scan that cannot start has failed. -/
theorem scanFiles_value_of_error {e : SearchError}
    (h : searcher.enumerate root allFiles = .error e) :
    (scanFiles searcher root operation keep? describe).value = .failed := by
  simp [scanFiles, h]

/-- A scan that cannot start reports why, and nothing else. -/
theorem problems_scanFiles_of_error {e : SearchError}
    (h : searcher.enumerate root allFiles = .error e) :
    (scanFiles searcher root operation keep? describe).problems =
      [operation ++ ": " ++ e.message] := by
  simp [scanFiles, h]

/-- Looking for files by name yields the files of the walk, if it can start. -/
theorem findByName_value_of_ok {pattern : String} {walk : Walk}
    (h : searcher.enumerate root pattern = .ok walk) :
    (findByName searcher root pattern).value = .withSkipped walk.files walk.problems.length := by
  simp [findByName, h]

theorem findByName_value_of_error {pattern : String} {e : SearchError}
    (h : searcher.enumerate root pattern = .error e) :
    (findByName searcher root pattern).value = .failed := by
  simp [findByName, h]

/-- Whether the file at a path was modified within some days, if that can be found out. -/
def isRecent (searcher : Searcher) (root : OsText) (days : UInt64) (file : String) :
    Except SearchError Bool :=
  (searcher.stat (Path.join root file)).map fun node =>
    node.modified?.any fun modified => ageInDays searcher.world.now modified ≤ days

/-- The scan behind `findRecent`. -/
def recentScan (searcher : Searcher) (root : OsText) (days : UInt64) : Logged Outcome :=
  scanFiles searcher root "find_recently_modified_files" (isRecent searcher root days)
    fun e => "find_recently_modified_files" ++ ": " ++ e.message

theorem findRecent_value (days : UInt64) :
    (findRecent searcher root days).value = (recentScan searcher root days).value := by
  show (_ >>= _ : Logged Outcome).value = _
  rw [Logged.value_bind]
  show Logged.value (ite _ _ _) = _
  split <;> rfl

theorem problems_findRecent (days : UInt64) :
    (findRecent searcher root days).problems = (recentScan searcher root days).problems := by
  show (_ >>= _ : Logged Outcome).problems = _
  rw [Logged.problems_bind]
  refine (congrArg _ ?_).trans (List.append_nil _)
  show Logged.problems (ite _ _ _) = _
  split <;> rfl

/-! ## Small file systems -/

instance exceptDecidableEq {ε α : Type} [DecidableEq ε] [DecidableEq α] :
    DecidableEq (Except ε α)
  | .ok a, .ok b => decidable_of_iff (a = b) (by simp)
  | .error a, .error b => decidable_of_iff (a = b) (by simp)
  | .ok _, .error _ => isFalse (by simp)
  | .error _, .ok _ => isFalse (by simp)

/-- A text file that can be written. -/
def NewEntry.text (text : String) : NewEntry := .file text.toUTF8 default

/-- The file system in which some entries were written, one after the other. -/
def World.ofEntries (entries : List (String × NewEntry)) : World :=
  entries.foldl (fun world entry => world.put entry.1 entry.2) ⟨Tree.empty, "/", default⟩

end CodeSearch
