import CodeSearch.Proofs.Query.Content
import CodeSearch.Proofs.Query.Exclusion
import Mathlib.Algebra.Order.Floor.Div

/-!
# Files modified within some days

Ages are whole days, rounded up, so a file is listed if its time lies at most that many times 24 hours
back, to the nanosecond (`ageInDays_le_iff`).  No two times are so far apart that the days between them
do not fit into 64 bits (`toNat_ageInDays`).  What is found is the listing of the tree without the older
files; more days only add files, and what cannot be examined does not depend on the days.
-/

namespace CodeSearch

/-! ## Ages -/

theorem nanosecondsPerDay_pos : 0 < nanosecondsPerDay := by decide

namespace Instant

/-- The nanoseconds from `modified` to `now`; none if `modified` is still to come. -/
def elapsed (now modified : Instant) : Nat := (now.nanoseconds - modified.nanoseconds).toNat

/-- A time that is still to come, or that lies at most `days` times 24 hours back. -/
def IsWithin (modified : Instant) (days : Nat) (now : Instant) : Prop :=
  now.nanoseconds < modified.nanoseconds ∨
    now.nanoseconds - modified.nanoseconds ≤ days * nanosecondsPerDay

instance (modified : Instant) (days : Nat) (now : Instant) : Decidable (modified.IsWithin days now) :=
  inferInstanceAs (Decidable (_ ∨ _))

variable {now modified : Instant}

/-- The seconds between two times fit into 64 bits. -/
theorem elapsed_lt (now modified : Instant) : now.elapsed modified < UInt64.size * 1000000000 := by
  have hge := modified.ge
  have hlt := now.lt
  unfold instantLimit at hge hlt
  unfold elapsed UInt64.size
  omega

theorem elapsed_le_iff {days : Nat} :
    now.elapsed modified ≤ nanosecondsPerDay * days ↔ modified.IsWithin days now := by
  have hdays : (0 : Int) ≤ days * nanosecondsPerDay :=
    Int.mul_nonneg (Int.natCast_nonneg _) (Int.natCast_nonneg _)
  unfold elapsed IsWithin
  rw [Int.toNat_le, Nat.cast_mul, mul_comm]
  omega

/-- More days reach further back. -/
theorem IsWithin.mono {days more : Nat} (h : modified.IsWithin days now) (hle : days ≤ more) :
    modified.IsWithin more now := by
  rw [← elapsed_le_iff] at h ⊢
  exact h.trans (Nat.mul_le_mul_left _ hle)

end Instant

/-- The days between two times fit into 64 bits. -/
theorem elapsed_ceilDiv_lt (now modified : Instant) :
    now.elapsed modified ⌈/⌉ nanosecondsPerDay < UInt64.size := by
  have helapsed := now.elapsed_lt modified
  rw [Nat.lt_iff_le_pred (by decide), ceilDiv_le_iff_le_mul nanosecondsPerDay_pos]
  exact helapsed.le.trans (by decide)

/-- An age is the time that has passed in days, rounded up; nothing is cut off. -/
theorem toNat_ageInDays (now modified : Instant) :
    (ageInDays now modified).toNat = now.elapsed modified ⌈/⌉ nanosecondsPerDay := by
  have hround : (now.elapsed modified + (nanosecondsPerDay - 1)) / nanosecondsPerDay =
      now.elapsed modified ⌈/⌉ nanosecondsPerDay := by
    rw [Nat.ceilDiv_eq_add_pred_div, Nat.add_sub_assoc nanosecondsPerDay_pos]
  show (UInt64.ofNat ((now.elapsed modified + (nanosecondsPerDay - 1)) / nanosecondsPerDay)).toNat = _
  rw [hround, UInt64.toNat_ofNat', Nat.mod_eq_of_lt (elapsed_ceilDiv_lt now modified)]

/-- Ages are compared as if they were not rounded. -/
theorem ageInDays_le_iff {now modified : Instant} {days : UInt64} :
    ageInDays now modified ≤ days ↔ modified.IsWithin days.toNat now := by
  rw [UInt64.le_iff_toNat_le, toNat_ageInDays, ceilDiv_le_iff_le_mul nanosecondsPerDay_pos,
    Instant.elapsed_le_iff]

/-! ## Listing recent files -/

variable {searcher : Searcher} {root : OsText}

/-- When the file at a path below the root was modified, if that can be found out. -/
def Searcher.modified? (searcher : Searcher) (root : OsText) (file : String) : Option Instant :=
  (searcher.world.stat (Path.join root file)).toOption.bind Node.modified?

/-- The listing of a walk, cut down to the files that were modified within some days. -/
def recentOutcome (searcher : Searcher) (root : OsText) (days : Nat) (walk : Walk) : Outcome :=
  .withSkipped
    (walk.files.filter fun file => (searcher.modified? root file).any fun modified =>
      decide (modified.IsWithin days searcher.world.now))
    (walk.problems.length +
      (walk.files.filter fun file : String => !searcher.world.exists? (Path.join root file)).length)

/-- The listing has no directories, so whatever can be examined has a time. -/
theorem isSome_modified?_of_isListed {file : String} (h : IsListed searcher root file)
    (hexists : searcher.world.exists? (Path.join root file) = true) :
    (searcher.modified? root file).isSome = true := by
  have hkept := h.not_excluded
  unfold isExcludedCandidate World.isDir at hkept
  unfold World.exists? at hexists
  unfold Searcher.modified?
  cases hstat : searcher.world.stat (Path.join root file) with
  | error e => simp [hstat] at hexists
  | ok node =>
    cases node with
    | file | socket => rfl
    | dir => simp [hstat, Node.isDir] at hkept
    | link => cases World.isLink_of_stat hstat

theorem findRecent_value_eq_recentOutcome {walk : Walk}
    (h : searcher.enumerate root allFiles = .ok walk) (days : UInt64) :
    (findRecent searcher root days).value = recentOutcome searcher root days.toNat walk := by
  have hexamine (file : String) :
      isAccepted (isRecent searcher root days file) =
          ((searcher.modified? root file).any fun modified =>
            decide (modified.IsWithin days.toNat searcher.world.now)) ∧
        (fault? (isRecent searcher root days file)).isSome =
          !searcher.world.exists? (Path.join root file) := by
    unfold isRecent Searcher.stat Searcher.modified? World.exists?
    cases searcher.world.stat (Path.join root file) with
    | error e => exact ⟨rfl, rfl⟩
    | ok node =>
      refine ⟨?_, rfl⟩
      simp only [← ageInDays_le_iff]
      rfl
  rw [findRecent_value]
  unfold recentScan recentOutcome
  rw [scanFiles_value_of_ok _ _ _ _ _ h, faults, List.length_filterMap_eq_countP,
    List.countP_eq_length_filter]
  simp only [fun file => (hexamine file).1, fun file => (hexamine file).2]

/-- More days only add files to what is listed of a walk. -/
theorem recentOutcome_mono {days more : Nat} (h : days ≤ more) (walk : Walk) :
    (recentOutcome searcher root days walk).value.Sublist
        (recentOutcome searcher root more walk).value ∧
      (recentOutcome searcher root days walk).status =
        (recentOutcome searcher root more walk).status := by
  unfold recentOutcome
  rw [Outcome.status_withSkipped, Outcome.status_withSkipped]
  refine ⟨List.monotone_filter_right _ fun file hfile => ?_, rfl⟩
  simp only [Option.any_eq_true, decide_eq_true_eq] at hfile ⊢
  obtain ⟨modified, htime, hwithin⟩ := hfile
  exact ⟨modified, htime, hwithin.mono h⟩

/-- Where the tree cannot be listed, nothing recent is found. -/
theorem findRecent_value_of_error {e : SearchError} (h : searcher.enumerate root allFiles = .error e)
    (days : UInt64) : (findRecent searcher root days).value = .failed := by
  rw [findRecent_value]
  exact scanFiles_value_of_error _ _ _ _ _ h

variable (searcher root) in
/-- More days only add files. -/
theorem findRecent_mono {days more : UInt64} (h : days ≤ more) :
    (findRecent searcher root days).value.value.Sublist
        (findRecent searcher root more).value.value ∧
      (findRecent searcher root days).value.status =
        (findRecent searcher root more).value.status := by
  cases hwalk : searcher.enumerate root allFiles with
  | ok walk =>
    rw [findRecent_value_eq_recentOutcome hwalk, findRecent_value_eq_recentOutcome hwalk]
    exact recentOutcome_mono (UInt64.le_iff_toNat_le.1 h) walk
  | error e =>
    rw [findRecent_value_of_error hwalk, findRecent_value_of_error hwalk]
    exact ⟨List.Sublist.refl _, rfl⟩

/-- **Recent files.**  Below a directory that can be listed, what was modified within some days is the
listing of the tree, cut down to the files whose time is still to come or lies at most that many times
24 hours back; elsewhere both have failed.  All files that can be examined have a time, and those that
cannot be are counted, whatever the days are; so more days only add files.  Every age is the distance of
two times in days, rounded up, which fits into 64 bits. -/
theorem findRecent_filters_listing (searcher : Searcher) (root : OsText) :
    ((∃ walk, searcher.enumerate root "**/*" = .ok walk) ↔
      ∃ access entries, searcher.world.stat root = .ok (.dir access entries) ∧ access.lists = true) ∧
    (∀ walk, searcher.enumerate root "**/*" = .ok walk →
      (findByName searcher root "**/*").value = .withSkipped walk.files walk.problems.length ∧
      (∀ days, (findRecent searcher root days).value =
        recentOutcome searcher root days.toNat walk) ∧
      ∀ file ∈ walk.files, searcher.world.exists? (Path.join root file) = true →
        (searcher.modified? root file).isSome = true) ∧
    (∀ e, searcher.enumerate root "**/*" = .error e →
      (findByName searcher root "**/*").value = .failed ∧
      ∀ days, (findRecent searcher root days).value = .failed) ∧
    (∀ days more, days ≤ more →
      (findRecent searcher root days).value.value.Sublist
          (findRecent searcher root more).value.value ∧
        (findRecent searcher root days).value.status =
          (findRecent searcher root more).value.status) ∧
    ∀ now modified, now.elapsed modified < UInt64.size * 1000000000 ∧
      now.elapsed modified ⌈/⌉ nanosecondsPerDay < UInt64.size ∧
      (ageInDays now modified).toNat = now.elapsed modified ⌈/⌉ nanosecondsPerDay := by
  refine ⟨exists_enumerate_iff, ?_, ?_, fun days more => findRecent_mono searcher root, ?_⟩
  · intro walk hwalk
    refine ⟨findByName_value_of_ok _ _ hwalk, findRecent_value_eq_recentOutcome hwalk, ?_⟩
    intro file hfile
    exact isSome_modified?_of_isListed ⟨allFiles, walk, hwalk, hfile⟩
  · intro e hwalk
    exact ⟨findByName_value_of_error _ _ hwalk, findRecent_value_of_error hwalk⟩
  · intro now modified
    exact ⟨now.elapsed_lt modified, elapsed_ceilDiv_lt now modified, toNat_ageInDays now modified⟩

/-- A file from exactly seven days ago, one that is a nanosecond older, one from the future, and a link
that leads nowhere. -/
def recentSample : Searcher where
  world := .ofEntries [
    ("/repo/edge.ts", .file (some ⟨#[]⟩) (.ofNanoseconds (-7 * nanosecondsPerDay))),
    ("/repo/gone.ts", .link "nowhere"),
    ("/repo/late.ts", .file (some ⟨#[]⟩) (.ofNanoseconds (-7 * nanosecondsPerDay - 1))),
    ("/repo/next.ts", .file (some ⟨#[]⟩) (.ofNanoseconds 1))]
  config := {}

theorem findRecent_filters_listing_recentSample :
    recentSample.enumerate "/repo" "**/*" =
        .ok ⟨["edge.ts", "gone.ts", "late.ts", "next.ts"], []⟩ ∧
      (findRecent recentSample "/repo" 7).value = ⟨["edge.ts", "next.ts"], .incomplete 1⟩ ∧
      ["edge.ts", "next.ts"].Sublist (findRecent recentSample "/repo" 8).value.value ∧
      (findRecent recentSample "/repo" 8).value.status = .incomplete 1 := by
  have hwalk : recentSample.enumerate "/repo" "**/*" =
      .ok ⟨["edge.ts", "gone.ts", "late.ts", "next.ts"], []⟩ := by decide +kernel
  obtain ⟨-, hlisted, -, hmore, -⟩ := findRecent_filters_listing recentSample "/repo"
  obtain ⟨-, hrecent, -⟩ := hlisted _ hwalk
  have hseven : (findRecent recentSample "/repo" 7).value =
      ⟨["edge.ts", "next.ts"], .incomplete 1⟩ := by
    rw [hrecent]
    decide +kernel
  obtain ⟨hadded, hstatus⟩ := hmore 7 8 (by decide)
  rw [hseven] at hadded hstatus
  exact ⟨hwalk, hseven, hadded, hstatus.symm⟩

end CodeSearch
