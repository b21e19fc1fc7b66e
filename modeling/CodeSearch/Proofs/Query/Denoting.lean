import CodeSearch.Proofs.Query.Exclusion
import CodeSearch.Proofs.Walk.Places

/-!
# What returned paths denote

A query that reads or looks at a file before it lists it lists only what is there.  Two queries list
what a walk yields as it stands: the search by name, and the search for tests, which is one.  They show
a link that leads nowhere like a file, since the check that nothing listed is a directory takes a path
that cannot be looked at for a file.  `IsListedUnseen` has all reasons for this.
-/

namespace CodeSearch

variable {searcher : Searcher} {root : OsText} {path : String}

/-- A path below the root leads to something that is no directory. -/
def Denotes (searcher : Searcher) (root : OsText) (path : String) : Prop :=
  ∃ node, searcher.world.stat (Path.join root path) = .ok node ∧ node.isDir = false

/-- What a scan finds has been accepted. -/
theorem isAccepted_of_mem_scanFiles {operation : String}
    {keep? : String → Except SearchError Bool} {describe : SearchError → String}
    (h : path ∈ (scanFiles searcher root operation keep? describe).value.value) :
    isAccepted (keep? path) = true := by
  cases hwalk : searcher.enumerate root allFiles with
  | error e =>
    rw [scanFiles_value_of_error _ _ _ _ _ hwalk] at h
    cases h
  | ok walk =>
    rw [scanFiles_value_of_ok _ _ _ _ _ hwalk] at h
    exact (List.mem_filter.1 h).2

/-- What has been read is a regular file. -/
theorem World.stat_of_readText {world : World} {path : OsText} {text : String}
    (h : world.readText path = .ok text) :
    ∃ content modified, world.stat path = .ok (.file content modified) := by
  unfold readText readBytes at h
  cases hstat : world.stat path with
  | error e =>
    rw [hstat] at h
    cases h
  | ok node =>
    rw [hstat] at h
    cases node with
    | file content modified => exact ⟨content, modified, rfl⟩
    | socket | link | dir => cases h

/-- What a scan of texts finds has been read. -/
theorem IsTextHit.denotes (h : IsTextHit searcher root path) : Denotes searcher root path := by
  obtain ⟨holds, hpath⟩ := h
  have haccepted := isAccepted_of_mem_scanFiles hpath
  unfold Searcher.readText at haccepted
  cases hread : searcher.world.readText (Path.join root path) with
  | error e =>
    rw [hread] at haccepted
    cases haccepted
  | ok text =>
    obtain ⟨content, modified, hstat⟩ := World.stat_of_readText hread
    exact ⟨_, hstat, rfl⟩

/-- What trying the candidates of an import finds has been looked at. -/
theorem IsFound.denotes (h : IsFound searcher root path) : Denotes searcher root path := by
  obtain ⟨-, node, hstat, hfile⟩ := h
  refine ⟨node, hstat, ?_⟩
  cases node with
  | dir => cases hfile
  | file | socket | link => rfl

/-- What was modified within some days has been looked at. -/
theorem denotes_of_mem_findRecent {days : UInt64}
    (h : path ∈ (findRecent searcher root days).value.value) : Denotes searcher root path := by
  rw [findRecent_value] at h
  have haccepted := isAccepted_of_mem_scanFiles h
  unfold isRecent Searcher.stat at haccepted
  cases hstat : searcher.world.stat (Path.join root path) with
  | error e =>
    rw [hstat] at haccepted
    cases haccepted
  | ok node =>
    rw [hstat] at haccepted
    refine ⟨node, hstat, ?_⟩
    cases node with
    | dir => cases haccepted
    | file | socket | link => rfl

/-- What probing finds has been looked at. -/
theorem denotes_of_probe (h : searcher.probe root path = .ok true) : Denotes searcher root path := by
  unfold Searcher.probe Searcher.stat at h
  cases hstat : searcher.world.stat (Path.join root path) with
  | error e =>
    rw [hstat] at h
    dsimp only at h
    split at h <;> cases h
  | ok node =>
    rw [hstat] at h
    refine ⟨node, hstat, ?_⟩
    cases node with
    | dir => cases h
    | file | socket | link => rfl

/-- Apart from dependencies as the source spells them, what a result lists has been looked at, unless
the request only looks at names. -/
theorem denotes_of_mem_run {request : Request} (hrequest : request.tool ≠ .findDependencies)
    (h : path ∈ (request.run searcher root).value.value) :
    Denotes searcher root path ∨
      (request.tool = .findFilesByName ∨ request.tool = .findRelatedTests) ∧
        IsListed searcher root path := by
  obtain ⟨tool, argument⟩ := request
  have hhit {holds : String → Bool}
      (h : path ∈ (scanTexts searcher root holds).value.value) : Denotes searcher root path :=
    IsTextHit.denotes ⟨holds, h⟩
  -- the cases are the tools: two of them list what a walk yields, the others look first
  cases tool with
  | findFilesByName => exact .inr ⟨.inl rfl, mem_findByName h⟩
  | findFilesByContent => exact .inl (hhit h)
  | findFilesByRegex => exact .inl (mem_findByRegex h).denotes
  | findImportedFiles => exact .inl (mem_findImported h).denotes
  | findDependencies => exact absurd rfl hrequest
  | findRelatedClasses =>
    exact .inl ((mem_findRelatedClasses h).elim IsTextHit.denotes IsFound.denotes)
  | findStyleDependencies => exact .inl (mem_findStyles h).denotes
  | findRelatedTests => exact .inr ⟨.inr rfl, mem_findRelatedTests h⟩
  | findComponentUsage => exact .inl (hhit h)
  | findApiUsage => exact .inl (mem_findApiUsage h).denotes
  | findFunctionDefinition => exact .inl (hhit h)
  | findRecentlyModifiedFiles => exact .inl (denotes_of_mem_findRecent h)
  | findExternalDependency => exact .inl (denotes_of_probe (mem_findExternal h))

/-- Why a path below a root can be listed although nothing is found by it. -/
inductive IsListedUnseen (searcher : Searcher) (root : OsText) (path : String) : Prop where
  /-- A link is there, and links are not followed. -/
  | link (hscan : searcher.config.scan.followLinks = false)
      (h : searcher.world.IsLink (Path.join root path))
  /-- The path is too long to look. -/
  | long (h : pathLimit ≤ (Path.join root path).size)
  /-- The directory that it is in can be listed, but not searched. -/
  | closed (h : searcher.world.IsClosed (Path.join root path))
  /-- It is shown for another path, since it has a name that is not UTF-8. -/
  | undecoded (way : List OsText) (hpath : path = Walk.shown way)
      (hway : ∀ name ∈ way, searcher.world.tree.top.HasName name)
      (h : ∃ name ∈ way, ¬ name.IsUtf8)

/-- What a walk lists is found, or it is listed for another reason. -/
theorem IsListed.denotes_or (h : IsListed searcher root path) :
    Denotes searcher root path ∨
      (∃ e, searcher.world.stat (Path.join root path) = .error e) ∧
        IsListedUnseen searcher root path := by
  -- the filter has taken out all that denotes a directory
  have hdir := (Bool.or_eq_false_iff.1 h.not_excluded).2
  obtain ⟨pattern, walk, hwalk, hfile⟩ := h
  unfold World.isDir at hdir
  cases hstat : searcher.world.stat (Path.join root path) with
  | ok node =>
    rw [hstat] at hdir
    exact .inl ⟨node, hstat, hdir⟩
  | error e =>
    refine .inr ⟨⟨e, rfl⟩, ?_⟩
    obtain ⟨way, hne, hhas, hshown, hyielded⟩ := Walk.isYielded_of_walkFiles hwalk hfile
    by_cases htext : ∀ name ∈ way, name.IsUtf8
    · -- the path is the one that the walk came to
      have hjoin : Path.join root path = Path.extend root way := by
        rw [hshown, Walk.join_shown hne (fun name hname =>
          searcher.world.tree.wellFormed.isName_of_hasName (hhas name hname)) htext]
      rw [← hjoin] at hyielded
      cases hyielded with
      | file hdenotes => simp [Walk.denotesFile, hstat] at hdenotes
      | long hlong => exact .long hlong
      | closed hclosed => exact .closed hclosed
      | link hscan hlink => exact .link hscan hlink
    · exact .undecoded way hshown hhas (by simpa using htext)

/-- **Returned paths denote files.**  Apart from dependencies as the source spells them, every path in
a result leads to something that is no directory.  The exceptions are in the answers to requests that
only look at names: a link that leads nowhere, where links are not followed, a path that is too long to
look at, an entry of a directory that cannot be searched, and a path that is not what it is shown as. -/
theorem run_value_denotes_files (searcher : Searcher) (root : OsText) (request : Request)
    (hrequest : request.tool ≠ .findDependencies) :
    ∀ path ∈ (request.run searcher root).value.value,
      (∃ node, searcher.world.stat (Path.join root path) = .ok node ∧ node.isDir = false) ∨
      (request.tool = .findFilesByName ∨ request.tool = .findRelatedTests) ∧
        (∃ e, searcher.world.stat (Path.join root path) = .error e) ∧
        IsListedUnseen searcher root path := by
  intro path hpath
  rcases denotes_of_mem_run hrequest hpath with hdenotes | ⟨htool, hlisted⟩
  · exact .inl hdenotes
  · exact hlisted.denotes_or.imp_right fun hrefused => ⟨htool, hrefused⟩

/-- An entry of a directory that can be listed, but not searched. -/
example :
    let world := World.ofEntries [("/r/half/c.ts", .text ""), ("/r/half", .dir ⟨true, false⟩)]
    (findByName ⟨world, {}⟩ "/r" "**/*").value = ⟨["half/c.ts"], .complete⟩ ∧
      world.exists? "/r/half/c.ts" = false := by
  decide +kernel

/-- A file, a link to it, and a link that leads nowhere; links are not followed. -/
def denotingSample : Searcher where
  world := .ofEntries [("/a.ts", .text ""), ("/b.ts", .link "a.ts"), ("/e", .link "gone")]
  config := {}

theorem run_value_denotes_files_denotingSample :
    let request : Request := ⟨.findFilesByName, "**/*"⟩
    request.tool ≠ .findDependencies ∧
      (request.run denotingSample "/").value.value = ["a.ts", "b.ts", "e"] ∧
      (∃ node, denotingSample.world.stat (Path.join "/" "b.ts") = .ok node ∧ node.isDir = false) ∧
      ((∃ e, denotingSample.world.stat (Path.join "/" "e") = .error e) ∧
        IsListedUnseen denotingSample "/" "e") := by
  intro request
  have hrequest : request.tool ≠ .findDependencies := by decide
  have hvalue : (request.run denotingSample "/").value.value = ["a.ts", "b.ts", "e"] := by
    decide +kernel
  have hdenotes := run_value_denotes_files denotingSample "/" request hrequest
  rw [hvalue] at hdenotes
  refine ⟨hrequest, hvalue, ?_, ?_⟩
  · have hexists : denotingSample.world.exists? (Path.join "/" "b.ts") = true := by decide +kernel
    refine (hdenotes "b.ts" (by decide)).resolve_right ?_
    rintro ⟨-, ⟨e, hstat⟩, -⟩
    simp [World.exists?, hstat] at hexists
  · have hexists : denotingSample.world.exists? (Path.join "/" "e") = false := by decide +kernel
    refine ((hdenotes "e" (by decide)).resolve_left ?_).2
    rintro ⟨node, hstat, -⟩
    simp [World.exists?, hstat] at hexists

/-- Not every path that is returned leads somewhere: a link that leads nowhere is listed by name. -/
theorem not_forall_run_value_denotes_file :
    ¬ ∀ (searcher : Searcher) (root : OsText) (request : Request),
      request.tool ≠ .findDependencies → ∀ path ∈ (request.run searcher root).value.value,
        ∃ node, searcher.world.stat (Path.join root path) = .ok node ∧ node.isDir = false := by
  intro hdenotes
  have hvalue : (Request.run denotingSample "/" ⟨.findFilesByName, "**/*"⟩).value.value =
      ["a.ts", "b.ts", "e"] := by decide +kernel
  have hexists : denotingSample.world.exists? (Path.join "/" "e") = false := by decide +kernel
  obtain ⟨node, hstat, -⟩ := hdenotes denotingSample "/" ⟨.findFilesByName, "**/*"⟩ (by decide) "e"
    (by rw [hvalue]; decide)
  simp [World.exists?, hstat] at hexists

end CodeSearch
