import CodeSearch.Proofs.Glob
import CodeSearch.Proofs.Query.Basic
import CodeSearch.Proofs.Query.Matching
import CodeSearch.Proofs.Regex
import CodeSearch.Proofs.Walk.Alike
import Mathlib.Data.List.Count

/-!
# Searching the texts of a tree

Five kinds of requests look for a property of texts (`Request.textTest?`).  What they find is the
listing of the tree, in its order, without the files whose text fails the test; a file that cannot be
read as text is counted as skipped, and so is each problem of the walk (`textOutcome`).

Since the listing depends on contents only through ignore files, one file that holds something else
changes what is found at the paths that lead to it, and nowhere else.
-/

namespace CodeSearch

/-- A text contains another one if that stands somewhere in it. -/
theorem containsText_iff {needle text : String} :
    containsText needle text = true ↔ needle.toList <:+: text.toList :=
  Text.occursIn_iff

/-- What a request that searches texts asks of a text.  There is none for other requests, and none for
a regular expression that cannot be used. -/
def Request.textTest? : Request → Option (String → Bool)
  | ⟨.findFilesByContent, needle⟩ => some (containsText needle)
  | ⟨.findFilesByRegex, pattern⟩ =>
    match compileRegex pattern with
    | .ok regex => some fun text => regex.pattern.occursIn text.toList
    | .error _ => none
  | ⟨.findComponentUsage, component⟩ => some (containsText (String.append "<" component))
  | ⟨.findApiUsage, endpoint⟩ =>
    if (fetchCall endpoint).isUsable then
      some fun text => (fetchCall endpoint).pattern.occursIn text.toList
    else none
  | ⟨.findFunctionDefinition, name⟩ =>
    some fun text => (definitionShapes name).any fun shape => containsText shape text
  | _ => none

variable {searcher : Searcher} {root : OsText}

/-- The text of a file below the root, if it can be read as text. -/
def Searcher.text? (searcher : Searcher) (root : OsText) (file : String) : Option String :=
  (searcher.world.readText (Path.join root file)).toOption

/-- The listing of a walk, cut down to the files whose text passes a test. -/
def textOutcome (searcher : Searcher) (root : OsText) (holds : String → Bool) (walk : Walk) :
    Outcome :=
  .withSkipped (walk.files.filter fun file => (searcher.text? root file).any holds)
    (walk.problems.length + (walk.files.filter fun file => (searcher.text? root file).isNone).length)

/-! ## The outcome of a search -/

theorem scanTexts_value {walk : Walk} (h : searcher.enumerate root allFiles = .ok walk)
    (holds : String → Bool) :
    (scanTexts searcher root holds).value = textOutcome searcher root holds walk := by
  have hread (file : String) :
      isAccepted ((searcher.readText (Path.join root file)).map holds) =
          (searcher.text? root file).any holds ∧
        (fault? ((searcher.readText (Path.join root file)).map holds)).isSome =
          (searcher.text? root file).isNone := by
    unfold Searcher.readText Searcher.text?
    cases searcher.world.readText (Path.join root file) with
    | error e => exact ⟨rfl, rfl⟩
    | ok text => exact ⟨rfl, rfl⟩
  unfold scanTexts textOutcome
  rw [scanFiles_value_of_ok _ _ _ _ _ h, faults, List.length_filterMap_eq_countP,
    List.countP_eq_length_filter]
  simp only [fun file => (hread file).1, fun file => (hread file).2]

theorem scanTexts_value_of_error {e : SearchError} (h : searcher.enumerate root allFiles = .error e)
    (holds : String → Bool) : (scanTexts searcher root holds).value = .failed :=
  scanFiles_value_of_error _ _ _ _ _ h

/-- A search of texts keeps the files of the listing whose text passes. -/
theorem mem_scanTexts_value_iff {holds : String → Bool} {file : String} :
    file ∈ (scanTexts searcher root holds).value.value ↔
      file ∈ (findByName searcher root allFiles).value.value ∧
        ∃ text, searcher.text? root file = some text ∧ holds text = true := by
  cases hwalk : searcher.enumerate root allFiles with
  | error e =>
    rw [scanTexts_value_of_error hwalk, findByName_value_of_error _ _ hwalk]
    exact ⟨fun h => absurd h List.not_mem_nil, fun h => absurd h.1 List.not_mem_nil⟩
  | ok walk =>
    rw [scanTexts_value hwalk, findByName_value_of_ok _ _ hwalk, textOutcome,
      Outcome.value_withSkipped, Outcome.value_withSkipped, List.mem_filter, Option.any_eq_true]

/-- A request that searches texts is a scan of texts. -/
theorem run_value_eq_scanTexts {request : Request} {holds : String → Bool}
    (htest : request.textTest? = some holds) :
    (request.run searcher root).value = (scanTexts searcher root holds).value := by
  obtain ⟨tool, argument⟩ := request
  cases tool with
  | findFilesByContent | findComponentUsage | findFunctionDefinition =>
    obtain rfl := Option.some.inj htest
    rfl
  | findFilesByRegex =>
    show (findByRegex searcher root argument).value = _
    unfold findByRegex
    cases hregex : compileRegex argument with
    | error e => simp [Request.textTest?, hregex] at htest
    | ok regex =>
      obtain rfl : (fun text => regex.pattern.occursIn text.toList) = holds := by
        simpa [Request.textTest?, hregex] using htest
      rfl
  | findApiUsage =>
    show (findApiUsage searcher root argument).value = _
    unfold findApiUsage
    by_cases husable : (fetchCall argument).isUsable = true
    · obtain rfl : (fun text => (fetchCall argument).pattern.occursIn text.toList) = holds := by
        simpa [Request.textTest?, husable] using htest
      rw [if_pos husable]
      rfl
    · simp [Request.textTest?, husable] at htest
  | _ => cases htest

/-! ## Another content of one file -/

/-- Two file systems that differ in one regular file, which may hold something else in each. -/
structure World.DiffersAt (address : List OsText) (world other : World) : Prop where
  directory : other.workingDirectory = world.workingDirectory
  tree : Node.SameBut address world.tree.top other.tree.top

/-- Whether a path below the root leads to the node at some address. -/
def Searcher.Leads (searcher : Searcher) (root : OsText) (file : String) (address : List OsText) :
    Prop :=
  ∃ place, searcher.world.resolve (Path.join root file) = .ok place ∧ place.names = address

section Rewritten

variable {address : List OsText} {other : World}

/-- A walk that heeds no ignore files does not see what a file holds. -/
theorem World.DiffersAt.alike {world : World} (h : World.DiffersAt address world other)
    {scan : ScanConfig} (hignore : scan.respectGitignore = false) :
    Walk.Alike scan (fun _ => True) world other where
  top := h.tree.outline_eq
  below _ _ _ := trivial
  absolute _ _ := trivial
  resolve path _ := World.resolve_outline_congr h.tree.outline_eq h.directory.symm path
  readBytes hrespect := by
    rw [hignore] at hrespect
    cases hrespect
  user hrespect := by
    rw [hignore] at hrespect
    cases hrespect

/-- What does not lead to the file that differs has the same text. -/
theorem World.DiffersAt.text?_eq (h : World.DiffersAt address searcher.world other) {file : String}
    (hfile : ¬ searcher.Leads root file address) :
    Searcher.text? ⟨other, searcher.config⟩ root file = searcher.text? root file := by
  have hread : other.readBytes (Path.join root file) =
      searcher.world.readBytes (Path.join root file) := by
    refine World.readBytes_eq_of_sameBut h.tree h.directory.symm ?_
    intro place hresolve hnames
    exact hfile ⟨place, hresolve, hnames⟩
  unfold Searcher.text? World.readText
  rw [hread]

/-- Files with the same text pass the same tests, so the rest of what is found stays as it is. -/
theorem World.DiffersAt.run_value_filter_eq (h : World.DiffersAt address searcher.world other)
    (hignore : searcher.config.scan.respectGitignore = false) {request : Request}
    {holds : String → Bool} (htest : request.textTest? = some holds) {elsewhere : String → Bool}
    (helsewhere : ∀ file, elsewhere file = true → ¬ searcher.Leads root file address) :
    (request.run ⟨other, searcher.config⟩ root).value.value.filter elsewhere =
      (request.run searcher root).value.value.filter elsewhere := by
  have hsame : Searcher.enumerate ⟨other, searcher.config⟩ root allFiles =
      searcher.enumerate root allFiles :=
    (Walk.walkFiles_congr (h.alike hignore) trivial allFiles).symm
  rw [run_value_eq_scanTexts htest, run_value_eq_scanTexts htest]
  cases hwalk : searcher.enumerate root allFiles with
  | error e =>
    rw [scanTexts_value_of_error (hsame.trans hwalk), scanTexts_value_of_error hwalk]
  | ok walk =>
    rw [scanTexts_value (hsame.trans hwalk), scanTexts_value hwalk, textOutcome, textOutcome,
      Outcome.value_withSkipped, Outcome.value_withSkipped, List.filter_filter, List.filter_filter]
    refine List.filter_congr fun file _ => ?_
    cases hfile : elsewhere file with
    | false => rfl
    | true => rw [h.text?_eq (helsewhere file hfile)]

end Rewritten

/-! ## All searches of texts -/

/-- What a search of texts finds is part of the listing, in its order. -/
theorem scanTexts_value_sublist (holds : String → Bool) :
    (scanTexts searcher root holds).value.value.Sublist
      (findByName searcher root allFiles).value.value := by
  cases hwalk : searcher.enumerate root allFiles with
  | error e =>
    rw [scanTexts_value_of_error hwalk]
    exact List.nil_sublist _
  | ok walk =>
    rw [scanTexts_value hwalk, findByName_value_of_ok _ _ hwalk]
    exact List.filter_sublist

/-- A file that defines a function is one that contains some shape of its definition. -/
theorem mem_findFunctionDefinition_iff {name file : String} :
    file ∈ (findFunctionDefinition searcher root name).value.value ↔
      ∃ shape ∈ definitionShapes name, file ∈ (findByContent searcher root shape).value.value := by
  have hcontent (shape : String) : (findByContent searcher root shape).value =
      (scanTexts searcher root (containsText shape)).value := rfl
  have hdefinition : (findFunctionDefinition searcher root name).value =
      (scanTexts searcher root fun text =>
        (definitionShapes name).any fun shape => containsText shape text).value := rfl
  rw [hdefinition]
  simp only [hcontent, mem_scanTexts_value_iff, List.any_eq_true]
  constructor
  · rintro ⟨hfile, text, htext, shape, hshape, hholds⟩
    exact ⟨shape, hshape, hfile, text, htext, hholds⟩
  · rintro ⟨shape, hshape, hfile, text, htext, hholds⟩
    exact ⟨hfile, text, htext, shape, hshape, hholds⟩

/-- **Searches of texts.**  Every search of texts whose test can be used is the listing of the tree, cut
down to the texts that pass, and it fails where the root cannot be listed.  No file is listed twice, where
names are UTF-8.  Where ignore files are not heeded, another content of one file leaves the listing as it
is, and leaves what is found elsewhere as it is.  A component is used where its opening tag occurs, and
the files that define a function are those of the listing, in its order, in which some shape of its
definition occurs. -/
theorem textSearches_filter_listing (searcher : Searcher) (root : OsText) :
    ((∃ walk, searcher.enumerate root "**/*" = .ok walk) ↔
      ∃ access entries, searcher.world.stat root = .ok (.dir access entries) ∧ access.lists = true) ∧
    (∀ walk, searcher.enumerate root "**/*" = .ok walk →
      (findByName searcher root "**/*").value = .withSkipped walk.files walk.problems.length ∧
      (∀ request holds, Request.textTest? request = some holds →
        (request.run searcher root).value = textOutcome searcher root holds walk) ∧
      ((∀ name, searcher.world.tree.top.HasName name → name.IsUtf8) → walk.files.Nodup)) ∧
    (∀ e, searcher.enumerate root "**/*" = .error e →
      (findByName searcher root "**/*").value = .failed ∧
      ∀ request holds, Request.textTest? request = some holds →
        (request.run searcher root).value = .failed) ∧
    (searcher.config.scan.respectGitignore = false →
      ∀ address other, World.DiffersAt address searcher.world other →
        Searcher.enumerate ⟨other, searcher.config⟩ root "**/*" = searcher.enumerate root "**/*" ∧
        (∀ file, ¬ searcher.Leads root file address →
          Searcher.text? ⟨other, searcher.config⟩ root file = searcher.text? root file) ∧
        ∀ request holds, Request.textTest? request = some holds →
          ∀ elsewhere : String → Bool,
            (∀ file, elsewhere file = true → ¬ searcher.Leads root file address) →
            (request.run ⟨other, searcher.config⟩ root).value.value.filter elsewhere =
              (request.run searcher root).value.value.filter elsewhere) ∧
    (∀ component, (findComponentUsage searcher root component).value =
      (findByContent searcher root ("<" ++ component)).value) ∧
    ∀ name,
      (findFunctionDefinition searcher root name).value.value.Sublist
          (findByName searcher root "**/*").value.value ∧
        ∀ file, file ∈ (findFunctionDefinition searcher root name).value.value ↔
          ∃ shape ∈ definitionShapes name,
            file ∈ (findByContent searcher root shape).value.value := by
  refine ⟨exists_enumerate_iff,
    fun walk hwalk => ⟨findByName_value_of_ok _ _ hwalk, fun request holds htest => ?_,
      fun htext => Walk.walkFiles_nodup htext hwalk⟩,
    fun e hwalk => ⟨findByName_value_of_error _ _ hwalk, fun request holds htest => ?_⟩,
    fun hignore address other hdiffers => ⟨?_, fun file => hdiffers.text?_eq,
      fun request holds htest elsewhere => hdiffers.run_value_filter_eq hignore htest⟩,
    fun component => rfl, fun name => ⟨scanTexts_value_sublist _, fun file => ?_⟩⟩
  · rw [run_value_eq_scanTexts htest, scanTexts_value hwalk]
  · rw [run_value_eq_scanTexts htest, scanTexts_value_of_error hwalk]
  · exact (Walk.walkFiles_congr (hdiffers.alike hignore) trivial allFiles).symm
  · exact mem_findFunctionDefinition_iff

/-- A directory with two files, one of which holds given bytes. -/
def textSample (content : ByteArray) : World where
  tree :=
    { entries := [("repo", .dir {} [("a.ts", .file (some content) default),
        ("b.ts", .file (some "let f = (".toUTF8) default)])]
      wellFormed := by
        have hfiles : (Node.dir {} [("a.ts", .file (some content) default),
            ("b.ts", .file (some "let f = (".toUTF8) default)]).WellFormed := by
          refine .dir ?_ ?_ ?_
          · simpa using ⟨(by decide +kernel : IsName "a.ts"), (by decide +kernel : IsName "b.ts")⟩
          · exact List.pairwise_pair.mpr (by decide : ("a.ts" : OsText) < "b.ts")
          · simpa using ⟨Node.WellFormed.file, Node.WellFormed.file⟩
        refine .dir ?_ (List.pairwise_singleton _ _) ?_
        · simpa using (by decide : IsName "repo")
        · simpa using hfiles }
  workingDirectory := "/"
  now := default

theorem differsAt_textSample (content content' : ByteArray) :
    World.DiffersAt ["repo", "a.ts"] (textSample content) (textSample content') where
  directory := rfl
  tree := .dir {} [] [] "repo"
    (.dir {} [] [("b.ts", .file (some "let f = (".toUTF8) default)] "a.ts" .file)

/-- A search that is cut short by what one file holds finds the other file still. -/
theorem textSearches_filter_listing_textSample :
    Searcher.enumerate ⟨textSample "let f = (".toUTF8, {}⟩ "/repo" "**/*" =
        .ok ⟨["a.ts", "b.ts"], []⟩ ∧
      (Request.run ⟨textSample "let f = (".toUTF8, {}⟩ "/repo" ⟨.findFunctionDefinition, "f"⟩).value =
        ⟨["a.ts", "b.ts"], .complete⟩ ∧
      ((Request.run ⟨textSample ⟨#[0xff]⟩, {}⟩ "/repo" ⟨.findFunctionDefinition, "f"⟩).value.value.filter
          (· == "b.ts") =
        (Request.run ⟨textSample "let f = (".toUTF8, {}⟩ "/repo"
          ⟨.findFunctionDefinition, "f"⟩).value.value.filter (· == "b.ts")) := by
  have hwalk : Searcher.enumerate ⟨textSample "let f = (".toUTF8, {}⟩ "/repo" "**/*" =
      .ok ⟨["a.ts", "b.ts"], []⟩ := by
    decide +kernel
  have hplace : ((textSample "let f = (".toUTF8).resolve (Path.join "/repo" "b.ts")).map Place.names =
      .ok ["repo", "b.ts"] := by
    decide +kernel
  have helsewhere : ∀ file, (file == "b.ts") = true →
      ¬ Searcher.Leads ⟨textSample "let f = (".toUTF8, {}⟩ "/repo" file ["repo", "a.ts"] := by
    rintro file hfile ⟨place, hresolve, hnames⟩
    obtain rfl := beq_iff_eq.1 hfile
    rw [hresolve] at hplace
    exact absurd (hnames.symm.trans (Except.ok.inj hplace)) (by decide)
  obtain ⟨-, hlisted, -, hisolated, -⟩ :=
    textSearches_filter_listing ⟨textSample "let f = (".toUTF8, {}⟩ "/repo"
  obtain ⟨-, hrequests, -⟩ := hlisted _ hwalk
  obtain ⟨-, -, hrest⟩ := hisolated rfl _ _ (differsAt_textSample _ ⟨#[0xff]⟩)
  have hkept := hrest ⟨.findFunctionDefinition, "f"⟩ _ rfl (fun file => file == "b.ts") helsewhere
  have hboth := hrequests ⟨.findFunctionDefinition, "f"⟩ _ rfl
  dsimp only at hkept
  exact ⟨hwalk, hboth.trans (by decide +kernel), hkept⟩

/-! ## An endpoint that is too long -/

/-- Every character of a literal takes at least one state of the automaton. -/
theorem le_automatonSize_literal (direction : Regex.Direction) (text : List Char) :
    text.length * Regex.stateSize ≤ (Regex.Compact.literal text).automatonSize direction := by
  rcases text with _ | ⟨c, rest⟩
  · exact Nat.zero_mul _ ▸ Nat.zero_le _
  · unfold Regex.Compact.automatonSize
    refine Nat.mul_le_mul_right _ ?_
    induction c :: rest with
    | nil => exact Nat.zero_le _
    | cons c rest ih =>
      have hpos : 1 ≤ c.utf8Size := c.utf8Size_pos
      rw [List.flatMap_cons, List.length_append, String.length_utf8EncodeChar, List.length_cons]
      omega

/-- The characters other than a closing parenthesis. -/
theorem compl_closing : (Unicode.CharSet.ofRange ')' ')').compl = ⟨#[(0, 40), (42, 1114111)]⟩ := by
  decide +kernel

/-- The automata of a call are built for three parts, of which the last is the endpoint. -/
theorem compact_fetchCall (endpoint : String) :
    (fetchCall endpoint).compact =
      .ofParts (.literal "fetch(".toList ::
        .repetition (.set (Unicode.CharSet.ofRange ')' ')').compl) 0 none ::
          Regex.Compact.prepend (.literal endpoint.toList) []) := by
  unfold fetchCall
  rw [Regex.compact]
  simp only [Regex.compact.compacts, Regex.compact_literal, compl_closing]
  rfl

/-- An endpoint that is too long cannot be looked for. -/
theorem findApiUsage_of_long {endpoint : String}
    (h : Regex.sizeLimit < endpoint.toList.length * Regex.stateSize) :
    (findApiUsage searcher root endpoint).value = .failed := by
  have hpos : endpoint.toList ≠ [] := by
    intro hempty
    rw [hempty] at h
    exact absurd h (by decide)
  have hparts : Regex.Compact.prepend (.literal endpoint.toList) [] = [.literal endpoint.toList] := by
    obtain ⟨c, rest, heq⟩ := List.exists_cons_of_ne_nil hpos
    rw [heq]
    rfl
  have hliteral := le_automatonSize_literal .forward endpoint.toList
  have hsize : Regex.sizeLimit < (fetchCall endpoint).compact.size := by
    rw [compact_fetchCall, hparts]
    refine Nat.lt_of_lt_of_le (Nat.lt_of_lt_of_le h hliteral) (Nat.le_trans ?_ (Nat.le_max_left ..))
    simp only [Regex.Compact.ofParts, Regex.Compact.automatonSize, Regex.Compact.automatonSize.total]
    omega
  have husable : (fetchCall endpoint).isUsable = false := by
    have hwords : (fetchCall endpoint).compact.isWordList = false := by
      rw [compact_fetchCall, hparts]
      rfl
    unfold Regex.isUsable
    rw [hwords, Bool.false_or]
    exact decide_eq_false (Nat.not_le_of_lt hsize)
  unfold findApiUsage
  dsimp only
  rw [husable, if_neg Bool.false_ne_true]
  rfl

theorem length_toList_replicate (c : Char) (n : Nat) :
    (String.ofList (List.replicate n c)).toList.length = n := by
  rw [String.toList_ofList, List.length_replicate]

/-- An endpoint for which no automaton is built. -/
def longEndpoint : String := String.ofList (List.replicate 524288 'a')

/-- Looking for the uses of a long endpoint fails where the listing of the tree is complete. -/
theorem findApiUsage_fails_textSample :
    (textSample "fetch(x)".toUTF8).isDir "/repo" = true ∧
      (findByName ⟨textSample "fetch(x)".toUTF8, {}⟩ "/repo" "**/*").value =
        ⟨["a.ts", "b.ts"], .complete⟩ ∧
      (findApiUsage ⟨textSample "fetch(x)".toUTF8, {}⟩ "/repo" longEndpoint).value =
        ⟨[], .failed⟩ := by
  have hlong : Regex.sizeLimit < longEndpoint.toList.length * Regex.stateSize := by
    have hlength : longEndpoint.toList.length = 524288 := length_toList_replicate 'a' 524288
    rw [hlength]
    decide +kernel
  refine ⟨by decide +kernel, by decide +kernel, ?_⟩
  exact findApiUsage_of_long hlong

end CodeSearch
