import CodeSearch.Proofs.Glob
import CodeSearch.Proofs.Query.Basic
import CodeSearch.Proofs.Walk.Ways

/-!
# Looking for files by name

A glob takes no part in a walk: it only selects from what the walk has found.  So every name search is
a filter of the search for `**/*`, with the same problems (`walkFiles_eq_matching`), and `**/*` itself
matches every path that a walk can show.
-/

namespace CodeSearch

namespace Walk

/-- The files of a walk that match a glob, and all its problems. -/
def matching (glob : Glob) (walk : Walk) : Walk :=
  { walk with files := walk.files.filter fun file : String => glob.accepts file }

section

variable (world : World) (scan : ScanConfig) (root : OsText)

/-- A glob selects from the files that `**/*` finds. -/
theorem file?_eq_filter (glob : Glob) (item : Item) :
    item.file? world scan root glob =
      (item.file? world scan root ⟨[.recursivePrefix, .zeroOrMore]⟩).filter fun file : String =>
        glob.accepts file := by
  cases item with
  | problem text => rfl
  | entry path =>
    simp only [Item.file?, Glob.accepts_allFiles, Bool.true_and, Option.filter_filter]
    refine congrArg (Option.filter · _) (funext fun relative => ?_)
    exact Bool.eq_iff_iff.2 (by simp [and_comm])

theorem selected_eq_matching (glob : Glob) (place : Place) :
    selected world scan root glob place =
      (selected world scan root ⟨[.recursivePrefix, .zeroOrMore]⟩ place).matching glob := by
  unfold selected matching
  simp only [List.filter_filterMap, ← file?_eq_filter]

/-- A walk for a glob is the part of the walk for `**/*` that matches. -/
theorem walkFiles_eq_matching {pattern : String} {glob : Glob}
    (hglob : compileGlob pattern = .ok glob) :
    walkFiles world scan root pattern =
      (walkFiles world scan root allFiles).map (matching glob) := by
  rw [walkFiles_eq hglob, walkFiles_eq Glob.compileGlob_allFiles]
  cases rootPlace world root with
  | error e => rfl
  | ok place => exact congrArg Except.ok (selected_eq_matching world scan root glob place)

end

end Walk

/-- A walk for `**/*` starts exactly at a directory that can be listed. -/
theorem exists_enumerate_iff {searcher : Searcher} {root : OsText} :
    (∃ walk, searcher.enumerate root allFiles = .ok walk) ↔
      ∃ access entries, searcher.world.stat root = .ok (.dir access entries) ∧ access.lists = true := by
  rw [Searcher.enumerate, Walk.walkFiles_eq Glob.compileGlob_allFiles]
  constructor
  · rintro ⟨walk, hwalk⟩
    cases hplace : rootPlace searcher.world root with
    | error e =>
      rw [hplace] at hwalk
      cases hwalk
    | ok place =>
      obtain ⟨hresolve, access, entries, hnode, hlists⟩ := Walk.rootPlace_eq_ok_iff.1 hplace
      exact ⟨access, entries, World.stat_eq_ok_iff.2 ⟨place, hresolve, hnode⟩, hlists⟩
  · rintro ⟨access, entries, hstat, hlists⟩
    obtain ⟨place, hresolve, hnode⟩ := World.stat_eq_ok_iff.1 hstat
    rw [Walk.rootPlace_eq_ok_iff.2 ⟨hresolve, access, entries, hnode, hlists⟩]
    exact ⟨_, rfl⟩

/-- What is found by name are the files of the search for `**/*` that match, with its status. -/
theorem findByName_value_eq_filter (searcher : Searcher) (root : OsText) {pattern : String}
    {glob : Glob} (hglob : compileGlob pattern = .ok glob) :
    (findByName searcher root pattern).value =
      ⟨(findByName searcher root "**/*").value.value.filter fun file : String => glob.accepts file,
        (findByName searcher root "**/*").value.status⟩ := by
  have hwalk := Walk.walkFiles_eq_matching searcher.world searcher.config.scan root hglob
  cases hall : walkFiles searcher.world searcher.config.scan root allFiles with
  | error e =>
    rw [hall] at hwalk
    have hfailed {glob : String} (h : searcher.enumerate root glob = .error e) :
        (findByName searcher root glob).value = .failed := by
      simp [findByName, h]
    rw [hfailed hwalk, show "**/*" = allFiles from rfl, hfailed hall]
    rfl
  | ok walk =>
    rw [hall] at hwalk
    rw [findByName_value_of_ok searcher root hwalk, show "**/*" = allFiles from rfl,
      findByName_value_of_ok searcher root hall]
    rfl

/-- **A name search is a filter.**  For every glob that can be read, the walk for it fails exactly where
the walk for `**/*` does, in the same way; otherwise it finds the sublist of the files of that walk that
match, and meets the same problems.  The searches by name hence have the same status.  And `**/*`
matches every path, those that are named from a root among them. -/
theorem findByName_filters_listing {pattern : String} {glob : Glob}
    (hglob : compileGlob pattern = .ok glob) :
    (∀ world scan root, walkFiles world scan root pattern =
      (walkFiles world scan root "**/*").map fun walk =>
        ⟨walk.files.filter fun file : String => glob.accepts file, walk.problems⟩) ∧
    (∀ searcher root, (findByName searcher root pattern).value =
      ⟨(findByName searcher root "**/*").value.value.filter fun file : String => glob.accepts file,
        (findByName searcher root "**/*").value.status⟩) ∧
    ∃ all, compileGlob "**/*" = .ok all ∧ ∀ path, all.accepts path = true :=
  ⟨fun world scan root => Walk.walkFiles_eq_matching world scan root hglob,
    fun searcher root => findByName_value_eq_filter searcher root hglob, _,
    Glob.compileGlob_allFiles, Glob.accepts_allFiles⟩

/-- A hidden file, a name with a line feed, one outside ASCII, a link to its own directory and a link
that leads nowhere; hidden files are shown and links are followed. -/
def matchingSample : Searcher where
  world := .ofEntries [("/src/.env", .text ""), ("/src/a\nb.ts", .text ""), ("/src/é/.x.ts", .text ""),
    ("/src/é/up", .link ".."), ("/src/gone.ts", .link "nowhere")]
  config := { scan := { followLinks := true } }

theorem findByName_filters_listing_matchingSample :
    let glob : Glob :=
      ⟨[.recursivePrefix, .zeroOrMore, .literal '.', .literal 't', .literal 's']⟩
    compileGlob "./**/*.ts" = .ok glob ∧
      (findByName matchingSample "/src" "**/*").value =
        ⟨[".env", "a\nb.ts", "é/.x.ts"], .incomplete 2⟩ ∧
      (findByName matchingSample "/src" "./**/*.ts").value =
        ⟨[".env", "a\nb.ts", "é/.x.ts"].filter fun file : String => glob.accepts file, .incomplete 2⟩ ∧
      ([".env", "a\nb.ts", "é/.x.ts"].filter fun file : String => glob.accepts file) =
        ["a\nb.ts", "é/.x.ts"] := by
  intro glob
  have hglob : compileGlob "./**/*.ts" = .ok glob := rfl
  have hall : (findByName matchingSample "/src" "**/*").value =
      ⟨[".env", "a\nb.ts", "é/.x.ts"], .incomplete 2⟩ := by decide +kernel
  obtain ⟨-, hfilter, -⟩ := findByName_filters_listing hglob
  exact ⟨hglob, hall, by rw [hfilter, hall], by decide +kernel⟩

end CodeSearch
