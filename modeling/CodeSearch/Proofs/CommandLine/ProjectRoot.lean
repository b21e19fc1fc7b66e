import CodeSearch.CommandLine.Help
import CodeSearch.Proofs.Path.Folding
import CodeSearch.Proofs.Query.Alike
import Mathlib.Data.List.Find
import Mathlib.Data.List.Induction

/-!
# Where the command line is started

Unless a directory is given, the command line searches the nearest project at or above the directory
in which it is started.  `Ascends` is the search for it, one directory after the other.  It always ends,
at the directory that is searched (`ascends_iff`), and it comes by the same one from everywhere in a
project, so a command line is answered alike everywhere in a project
(`execute_ignores_place_in_project`).  The exception are ignore rules of the user, which are relative to
the directory in which a program is started.
-/

namespace CodeSearch

/-- A file system as it is seen from a directory in which a program is started. -/
def World.startedIn (world : World) (directory : OsText) : World :=
  { world with workingDirectory := directory }

theorem World.sameFiles_startedIn (world : World) (directory : OsText) :
    world.SameFiles (world.startedIn directory) := ⟨rfl, rfl⟩

/-- Some names lead to a directory through directories, without any link. -/
def World.HasDirectory (world : World) (names : List OsText) : Prop :=
  (world.top.descend? names).isSome = true

instance (world : World) (names : List OsText) : Decidable (world.HasDirectory names) :=
  inferInstanceAs (Decidable (_ = true))

/-- The names on the way to a directory are names of entries. -/
theorem Place.isName_of_descend? {place result : Place} (h : place.node.WellFormed)
    {names : List OsText} (hdescend : place.descend? names = some result) :
    ∀ name ∈ names, IsName name := by
  induction names generalizing place with
  | nil => simp
  | cons name rest ih =>
    obtain ⟨child, hlookup, hrest⟩ := Option.bind_eq_some_iff.1 hdescend
    have hmem := mem_of_lookup?_eq_some hlookup
    cases h.dir_entries with
    | dir hnames _ hchildren =>
      have hchild : (place.child name child).node.WellFormed := hchildren _ hmem
      exact List.forall_mem_cons.2 ⟨hnames _ hmem, ih hchild hrest⟩

theorem World.HasDirectory.isEntryName {world : World} {names : List OsText}
    (h : world.HasDirectory names) : ∀ name ∈ names, IsEntryName name := by
  obtain ⟨place, hplace⟩ := Option.isSome_iff_exists.1 h
  have htop : world.top.node.WellFormed := world.tree.wellFormed
  exact fun name hname => (Place.isName_of_descend? htop hplace name hname).isEntryName

/-- A program that is started in a directory that exists knows its path. -/
theorem World.HasDirectory.currentDirectory_eq {world : World} {names : List OsText}
    (h : world.HasDirectory names) :
    (world.startedIn (Path.ofNames names)).currentDirectory = .ok (Path.ofNames names) := by
  have hworking : (world.startedIn (Path.ofNames names)).workingPlace? = world.top.descend? names := by
    unfold workingPlace?
    rw [startedIn, Path.ofPath_ofNames h.isEntryName, if_pos (Path.isAbsolute_ofNames h.isEntryName)]
    rfl
  have hsome : (world.top.descend? names).isSome = true := h
  rw [currentDirectory, hworking, if_pos hsome]
  rfl

namespace CommandLine

open CodeSearch.Path (ofNames)

/-- A directory holds what marks the top of a project, if links are followed: a configuration file or a
repository. -/
def HoldsMarker (world : World) (directory : OsText) : Prop :=
  world.exists? (Path.join directory ".scout.toml") = true ∨
    world.exists? (Path.join directory ".git") = true

instance (world : World) (directory : OsText) : Decidable (HoldsMarker world directory) :=
  inferInstanceAs (Decidable (_ ∨ _))

theorem isProjectRoot_iff {world : World} {directory : OsText} :
    isProjectRoot world directory = true ↔ HoldsMarker world directory := by
  rw [isProjectRoot, Bool.or_eq_true]
  rfl

/-- The search for a project from `start`, arrived at `directory`: a directory with a marker is taken,
from others it goes on in the directory above, and if there is none, `start` is taken. -/
inductive Ascends (world : World) (start : OsText) : (directory root : OsText) → Prop where
  | marked {directory : OsText} (h : HoldsMarker world directory) :
      Ascends world start directory directory
  | above {directory parent root : OsText} (h : ¬ HoldsMarker world directory)
      (hparent : Path.parent? directory = some parent) (rest : Ascends world start parent root) :
      Ascends world start directory root
  | top {directory : OsText} (h : ¬ HoldsMarker world directory)
      (hparent : Path.parent? directory = none) : Ascends world start directory start

section Search

variable {world : World} {start directory root other : OsText} {names : List OsText}

/-- Each step of the search is determined, and so is its end. -/
theorem Ascends.eq (h : Ascends world start directory root)
    (hother : Ascends world start directory other) : root = other := by
  induction h with
  | marked h =>
    cases hother with
    | marked => rfl
    | above hfree | top hfree => exact absurd h hfree
  | above hfree hparent _ ih =>
    cases hother with
    | marked h => exact absurd h hfree
    | above _ hparent' rest =>
      rw [hparent] at hparent'
      exact ih (Option.some.inj hparent' ▸ rest)
    | top _ hparent' => simp [hparent] at hparent'
  | top hfree hparent =>
    cases hother with
    | marked h => exact absurd h hfree
    | above _ hparent' => simp [hparent] at hparent'
    | top => rfl

/-- The search ends at the first directory with a marker at or above the one where it has arrived, or
where it was started. -/
theorem ascends_find? (world : World) (start : OsText) (h : ∀ name ∈ names, IsEntryName name) :
    Ascends world start (ofNames names)
      (((Path.selfAndAbove (ofNames names)).find? (isProjectRoot world)).getD start) := by
  -- the last name is dropped first, as on the way up
  induction names using List.reverseRecOn with
  | nil =>
    rw [Path.selfAndAbove_ofNames_nil]
    by_cases hmarked : HoldsMarker world (ofNames [])
    · rw [List.find?_cons_of_pos (isProjectRoot_iff.2 hmarked)]
      exact .marked hmarked
    · rw [List.find?_cons_of_neg (mt isProjectRoot_iff.1 hmarked)]
      exact .top hmarked Path.parent?_ofNames_nil
  | append_singleton above name ih =>
    have habove : ∀ name ∈ above, IsEntryName name := fun other hother => h other (by simp [hother])
    rw [Path.selfAndAbove_ofNames_concat h]
    by_cases hmarked : HoldsMarker world (ofNames (above ++ [name]))
    · rw [List.find?_cons_of_pos (isProjectRoot_iff.2 hmarked)]
      exact .marked hmarked
    · rw [List.find?_cons_of_neg (mt isProjectRoot_iff.1 hmarked)]
      exact .above hmarked (Path.parent?_ofNames_concat h) (ih habove)

/-- What marks an absolute directory does not depend on where a program is started. -/
theorem isProjectRoot_startedIn (world : World) (start : OsText) {directory : OsText}
    (h : Path.isAbsolute directory = true) :
    isProjectRoot (world.startedIn start) directory = isProjectRoot world directory := by
  have hstat (name : OsText) := (world.sameFiles_startedIn start).stat_eq (Path.isAbsolute_join h name)
  unfold isProjectRoot World.exists?
  rw [hstat, hstat]

/-- The search from a directory ends, and nowhere else than at the directory that is searched. -/
theorem ascends_iff (h : world.HasDirectory names) :
    Ascends world (ofNames names) (ofNames names) root ↔
      searchRoot (world.startedIn (ofNames names)) none = .ok root := by
  have hmarks := List.find?_congr fun directory hdirectory =>
    isProjectRoot_startedIn world (ofNames names)
      (Path.isAbsolute_of_mem_selfAndAbove (Path.isAbsolute_ofNames h.isEntryName) hdirectory)
  have hend := ascends_find? world (ofNames names) h.isEntryName
  unfold searchRoot
  rw [h.currentDirectory_eq]
  dsimp only
  rw [hmarks, Except.ok.injEq]
  constructor
  · exact fun hroot => hend.eq hroot
  · rintro rfl
    exact hend

/-- The search comes by the nearest directory with a marker. -/
theorem ascends_of_marked {below : List OsText} (h : ∀ name ∈ names ++ below, IsEntryName name)
    (hmarked : HoldsMarker world (ofNames names))
    (hfree : ∀ first, first ≠ [] → first <+: below →
      ¬ HoldsMarker world (ofNames (names ++ first))) :
    Ascends world start (ofNames (names ++ below)) (ofNames names) := by
  induction below using List.reverseRecOn with
  | nil =>
    rw [List.append_nil]
    exact .marked hmarked
  | append_singleton before name ih =>
    rw [← List.append_assoc] at h ⊢
    have hbefore : ∀ other ∈ names ++ before, IsEntryName other :=
      fun other hother => h other (List.mem_append_left _ hother)
    have hunmarked := hfree (before ++ [name]) (by simp) (List.prefix_refl _)
    rw [← List.append_assoc] at hunmarked
    refine .above hunmarked (Path.parent?_ofNames_concat h) (ih hbefore fun first hne hfirst => ?_)
    exact hfree first hne (hfirst.trans (List.prefix_append _ _))

/-- Where there is no marker on the way to the top, the search ends where it was started. -/
theorem ascends_of_unmarked (h : ∀ name ∈ names, IsEntryName name)
    (hfree : ∀ above, above <+: names → ¬ HoldsMarker world (ofNames above)) :
    Ascends world start (ofNames names) start := by
  induction names using List.reverseRecOn with
  | nil => exact .top (hfree [] (List.prefix_refl _)) Path.parent?_ofNames_nil
  | append_singleton before name ih =>
    have hbefore : ∀ other ∈ before, IsEntryName other :=
      fun other hother => h other (List.mem_append_left _ hother)
    refine .above (hfree _ (List.prefix_refl _)) (Path.parent?_ofNames_concat h)
      (ih hbefore fun above habove => ?_)
    exact hfree above (habove.trans (List.prefix_append _ _))

end Search

/-! ## Starting somewhere else -/

/-- Arguments that name neither a directory to search nor a configuration file, or are refused. -/
def HasNoPathOptions (arguments : List String) : Prop :=
  ∀ invocation, parse none arguments = .ok invocation →
    invocation.options.root = none ∧ invocation.options.config = none

/-- The ignore file of the user counts in searches of a directory: there is one, and the configuration of
the directory heeds ignore files. -/
def CountsUserRules (world : World) (directory : OsText) : Prop :=
  world.tree.userIgnore ≠ none ∧
    ∃ config, Config.discover world directory = .ok config ∧ config.scan.respectGitignore = true

section Runs

variable {world other : World} (h : world.SameFiles other) {root : OsText}
  (hroot : Path.isAbsolute root = true)
  (hrules : ∀ config, Config.discover other root = .ok config →
    World.SameRules config.scan world other)
include h hroot hrules

/-- Two programs that search one absolute directory with the same rules run a query alike. -/
theorem runQuery_congr {options : Options} (hsearch : searchRoot world options.root = .ok root)
    (hsearch' : searchRoot other options.root = .ok root) (hconfig : options.config = none)
    (command : Command) : runQuery world options command = runQuery other options command := by
  unfold runQuery configuration
  rw [hsearch, hsearch', hconfig]
  dsimp only [bind, Except.bind]
  rw [h.discover_eq hroot]
  cases hdiscover : Config.discover other root with
  | error e => rfl
  | ok config =>
    dsimp only
    cases command.request with
    | error e => rfl
    | ok request => exact congrArg Except.ok (h.run_eq hroot (hrules config hdiscover) request)

theorem execute_congr (hsearch : searchRoot world none = .ok root)
    (hsearch' : searchRoot other none = .ok root) {arguments : List String}
    (harguments : HasNoPathOptions arguments) :
    execute world none arguments = execute other none arguments := by
  unfold execute
  cases hparse : parse none arguments with
  | error refusal => rfl
  | ok invocation =>
    obtain ⟨hgiven, hconfig⟩ := harguments invocation hparse
    rw [← hgiven] at hsearch hsearch'
    dsimp only
    unfold Invocation.run
    simp only [runQuery_congr h hroot hrules hsearch hsearch' hconfig]

end Runs

/-- **Everywhere in a project the answers are the same.**  In a directory with a marker and in every one
below it, up to the next marker, a command line that names neither a directory nor a configuration file
leads to the same exit code, output and messages, unless an ignore file of the user counts.  The search
for the project ends from every directory, and where nothing on the way to the top is marked, it is the
directory itself that is searched. -/
theorem execute_ignores_place_in_project (world : World) :
    (∀ names below arguments, world.HasDirectory (names ++ below) → world.HasDirectory names →
      HoldsMarker world (ofNames names) →
      (∀ first, first ≠ [] → first <+: below →
        ¬ HoldsMarker world (ofNames (names ++ first))) →
      ¬ CountsUserRules world (ofNames names) → HasNoPathOptions arguments →
      execute (world.startedIn (ofNames (names ++ below))) none arguments =
        execute (world.startedIn (ofNames names)) none arguments) ∧
    ∀ names, world.HasDirectory names →
      (∀ root, Ascends world (ofNames names) (ofNames names) root ↔
        searchRoot (world.startedIn (ofNames names)) none = .ok root) ∧
      ((∀ above, above <+: names → ¬ HoldsMarker world (ofNames above)) →
        searchRoot (world.startedIn (ofNames names)) none = .ok (ofNames names)) := by
  refine ⟨fun names below arguments hbelow hhere hmarked hfree hrules harguments => ?_,
    fun names hdirectory => ?_⟩
  · have habsolute := Path.isAbsolute_ofNames hhere.isEntryName
    have hsearchBelow := (ascends_iff hbelow).1 (ascends_of_marked hbelow.isEntryName hmarked hfree)
    have hsearchHere := (ascends_iff hhere).1 (.marked hmarked)
    have hfiles : (world.startedIn (ofNames (names ++ below))).SameFiles
        (world.startedIn (ofNames names)) := ⟨rfl, rfl⟩
    -- rules of the user that are not there, or not heeded, are the same from everywhere
    refine execute_congr hfiles habsolute (fun config hconfig hignore => ?_) hsearchBelow hsearchHere
      harguments
    rw [← (world.sameFiles_startedIn _).discover_eq habsolute] at hconfig
    have hnone : world.tree.userIgnore = none := by
      by_contra hsome
      exact hrules ⟨hsome, config, hconfig, hignore⟩
    simp only [UserRules.load?, World.startedIn, hnone]
  · exact ⟨fun root => ascends_iff hdirectory,
      fun hfree => (ascends_iff hdirectory).1 (ascends_of_unmarked hdirectory.isEntryName hfree)⟩

/-- A project in a project, marked by a directory, and a broken link that marks nothing. -/
def projectSample : World :=
  .ofEntries [("/p/.git/HEAD", .text ""), ("/p/q/.scout.toml", .dir), ("/p/q/src/.git", .link "gone"),
    ("/p/q/src/lib/a.ts", .text ""), ("/z", .dir)]

theorem execute_ignores_place_in_project_projectSample :
    (projectSample.HasDirectory ["p", "q", "src", "lib"] ∧ projectSample.HasDirectory ["p", "q"] ∧
      HoldsMarker projectSample "/p/q" ∧ ¬ HoldsMarker projectSample "/p/q/src" ∧
      ¬ HoldsMarker projectSample "/p/q/src/lib" ∧ ¬ CountsUserRules projectSample "/p/q" ∧
      HasNoPathOptions ["files", "**/*.ts"]) ∧
    execute (projectSample.startedIn "/p/q/src/lib") none ["files", "**/*.ts"] =
      ⟨0, "src/lib/a.ts\n",
        ["INFO find_files_by_name: 1 file(s) match '**/*.ts'", "(1 files)"]⟩ ∧
    Ascends projectSample "/p/q/src/lib" "/p/q/src/lib" "/p/q" ∧
    searchRoot (projectSample.startedIn "/z") none = .ok "/z" := by
  -- what the sample is like, by one evaluation
  have hsample : (projectSample.HasDirectory ["p", "q", "src", "lib"] ∧
      projectSample.HasDirectory ["p", "q"] ∧ HoldsMarker projectSample "/p/q" ∧
      ¬ HoldsMarker projectSample "/p/q/src" ∧ ¬ HoldsMarker projectSample "/p/q/src/lib" ∧
      projectSample.tree.userIgnore = none) ∧
      projectSample.HasDirectory ["z"] ∧ ¬ HoldsMarker projectSample "/" ∧
      ¬ HoldsMarker projectSample "/z" := by decide +kernel
  have hpaths : (ofNames ["p", "q"] = "/p/q" ∧ ofNames ["p", "q", "src"] = "/p/q/src" ∧
      ofNames ["p", "q", "src", "lib"] = "/p/q/src/lib") ∧ ofNames [] = "/" ∧ ofNames ["z"] = "/z" := by
    decide +kernel
  obtain ⟨⟨hbelow, hdirectory, hmarked, hsrc, hlib, hnone⟩, hz, htop, hunmarked⟩ := hsample
  obtain ⟨⟨hq, hqSrc, hqLib⟩, hslash, hzPath⟩ := hpaths
  have hrules : ¬ CountsUserRules projectSample "/p/q" := fun hcounts => hcounts.1 hnone
  have harguments : HasNoPathOptions ["files", "**/*.ts"] := by
    intro invocation hparse
    obtain rfl : ⟨{}, .query ⟨.findFilesByName, "**/*.ts"⟩⟩ = invocation := Except.ok.inj hparse
    exact ⟨rfl, rfl⟩
  have hfree : ∀ first : List OsText, first ≠ [] → first <+: ["src", "lib"] →
      ¬ HoldsMarker projectSample (ofNames ((["p", "q"] : List OsText) ++ first)) := by
    intro first hne hfirst
    rcases List.prefix_cons_iff.1 hfirst with rfl | ⟨rest, rfl, hrest⟩
    · exact absurd rfl hne
    · rcases List.prefix_cons_iff.1 hrest with rfl | ⟨last, rfl, hlast⟩
      · rw [← hqSrc] at hsrc
        exact hsrc
      · obtain rfl := List.prefix_nil.1 hlast
        rw [← hqLib] at hlib
        exact hlib
  have habove : ∀ above : List OsText, above <+: ["z"] → ¬ HoldsMarker projectSample (ofNames above) := by
    intro above habove
    rcases List.prefix_cons_iff.1 habove with rfl | ⟨rest, rfl, hrest⟩
    · rw [hslash]
      exact htop
    · obtain rfl := List.prefix_nil.1 hrest
      rw [hzPath]
      exact hunmarked
  obtain ⟨hruns, hstops⟩ := execute_ignores_place_in_project projectSample
  have hrun := hruns ["p", "q"] ["src", "lib"] ["files", "**/*.ts"] hbelow hdirectory (hq ▸ hmarked)
    hfree (hq ▸ hrules) harguments
  have hends := ((hstops _ hbelow).1 "/p/q").2
  have hhere : execute (projectSample.startedIn "/p/q") none ["files", "**/*.ts"] =
        ⟨0, "src/lib/a.ts\n", ["INFO find_files_by_name: 1 file(s) match '**/*.ts'", "(1 files)"]⟩ ∧
      searchRoot (projectSample.startedIn "/p/q/src/lib") none = .ok "/p/q" := by decide +kernel
  have hlast := (hstops ["z"] hz).2 habove
  have hjoined : (["p", "q"] : List OsText) ++ (["src", "lib"] : List OsText) =
      (["p", "q", "src", "lib"] : List OsText) := rfl
  rw [hjoined, hqLib, hq, hhere.1] at hrun
  rw [hqLib] at hends
  rw [hzPath] at hlast
  exact ⟨⟨hbelow, hdirectory, hmarked, hsrc, hlib, hrules, harguments⟩, hrun, hends hhere.2, hlast⟩

/-- A project that heeds ignore files, and a user whose ignore file is about the working directory. -/
def userRulesSample : World :=
  let world := World.ofEntries [("/p/.scout.toml", .text "[scan]\nrespect_gitignore = true"),
    ("/p/a.ts", .text ""), ("/p/src/a.ts", .text ""), ("/home/ignore", .text "/a.ts")]
  { world with tree := { world.tree with userIgnore := some "/home/ignore" } }

/-- A rule of the user leaves out the file of the directory in which the program is started. -/
theorem execute_heeds_place_in_userRulesSample :
    userRulesSample.HasDirectory ["p", "src"] ∧ HoldsMarker userRulesSample "/p" ∧
      ¬ HoldsMarker userRulesSample "/p/src" ∧ HasNoPathOptions ["files", "**/*.ts"] ∧
      (execute (userRulesSample.startedIn "/p") none ["files", "**/*.ts"]).output = "src/a.ts\n" ∧
      (execute (userRulesSample.startedIn "/p/src") none ["files", "**/*.ts"]).output = "a.ts\n" := by
  have harguments : HasNoPathOptions ["files", "**/*.ts"] := by
    intro invocation hparse
    obtain rfl : ⟨{}, .query ⟨.findFilesByName, "**/*.ts"⟩⟩ = invocation := Except.ok.inj hparse
    exact ⟨rfl, rfl⟩
  have hsample : userRulesSample.HasDirectory ["p", "src"] ∧ HoldsMarker userRulesSample "/p" ∧
      ¬ HoldsMarker userRulesSample "/p/src" := by decide +kernel
  refine ⟨hsample.1, hsample.2.1, hsample.2.2, harguments, ?_, ?_⟩
  · decide +kernel
  · decide +kernel

end CommandLine

end CodeSearch
