import CodeSearch.Proofs.Glob.Escape
import CodeSearch.Proofs.Query.Matching
import CodeSearch.Query.Tests

/-!
# Tests are found by name

The tests of a file or directory are looked for with a glob that is made from its name.  The name is
escaped, and reading the glob gets it back (`compileGlob_testsOf`, `compileGlob_testsBelow`), so the glob
accepts a path for its last name alone, and for where it lies (`accepts_testsOf`, `accepts_testsBelow`).
Only backslashes are not escaped, though they mean something in a glob.
-/

namespace CodeSearch

open CodeSearch.Text (segments)
open Glob (Token Levels escapedTokens readTokens sequencePattern AreSegments)
open Pattern (Means)

/-- The extensions of script sources that are looked for unless others are configured. -/
def defaultExtensions : List String := ({} : QueryConfig).sourceExtensions

/-- What the end of test names is read as. -/
def testTokens : List Token :=
  escapedTokens ".test." ++ [.alternates (defaultExtensions.map escapedTokens)]

theorem toList_testEnding : (testEnding {}).toList =
    ['.', 't', 'e', 's', 't', '.', '\x7b', 't', 's', ',', 't', 's', 'x', ',', 'j', 's', ',', 'j', 's',
      'x', '\x7d'] := by
  decide

theorem readTokens_testEnding (before : Option Char) (levels : Levels) :
    readTokens .strict before levels (testEnding {}).toList = .ok (levels.pushAll testTokens) := by
  rw [toList_testEnding]
  rfl

theorem means_testTokens : (sequencePattern testTokens).Means
    fun word => ∃ extension ∈ defaultExtensions, word = utf8Bytes (".test." ++ extension) := by
  have hgroup := Glob.means_alternates defaultExtensions (by decide) (by decide)
  refine (Glob.means_escapedTokens ".test." (Glob.means_singleton hgroup)).congr fun word => ?_
  constructor
  · rintro ⟨_, rfl, extension, hextension, rfl⟩
    exact ⟨extension, hextension, by simp⟩
  · rintro ⟨extension, hextension, rfl⟩
    exact ⟨_, utf8Bytes_append _ _, extension, hextension, rfl⟩

/-! ## Reading the globs -/

/-- What the glob for the tests of a file is read as. -/
def testsOfTokens (base : String) : List Token :=
  .recursivePrefix :: (escapedTokens base ++ testTokens)

/-- What the glob for the tests below a directory is read as. -/
def testsBelowTokens : (names : List String) → List Token
  | [] => .recursivePrefix :: .zeroOrMore :: testTokens
  | names => escapedTokens ("/".intercalate names) ++ .recursiveZeroOrMore :: .zeroOrMore :: testTokens

theorem testsBelowTokens_of_ne_nil {names : List String} (hne : names ≠ []) :
    testsBelowTokens names = escapedTokens ("/".intercalate names) ++
      .recursiveZeroOrMore :: .zeroOrMore :: testTokens := by
  cases names with
  | nil => exact absurd rfl hne
  | cons name rest => rfl

/-- `*` in front of the end of test names. -/
theorem readTokens_zeroOrMore (before : Option Char) (levels : Levels) :
    readTokens .strict before levels ('*' :: (testEnding {}).toList) =
      .ok (levels.pushAll (.zeroOrMore :: testTokens)) := by
  rw [Levels.pushAll_cons, ← readTokens_testEnding (some '*'), toList_testEnding]
  rfl

theorem compileGlob_testsOf {base : String} (hbase : '\\' ∉ base.toList) :
    compileGlob ("**/" ++ Glob.escape base ++ testEnding {}) = .ok ⟨testsOfTokens base⟩ := by
  have hchars : ("**/" ++ Glob.escape base ++ testEnding {}).toList =
      '*' :: '*' :: '/' :: ((Glob.escape base).toList ++ (testEnding {}).toList) := by
    simp
  apply Glob.compileGlob_eq_ok
  · intro rest hdot
    rw [hchars] at hdot
    cases hdot
  · obtain ⟨last, hlast⟩ := Glob.readTokens_escape hbase (.push {} .recursivePrefix) rfl
      (some '/') (testEnding {}).toList
    rw [readTokens_testEnding] at hlast
    rw [hchars, Glob.readTokens_recursivePrefix, hlast, testsOfTokens, Levels.pushAll_cons,
      Levels.pushAll_append]

/-- Everything below the root is searched for tests. -/
theorem compileGlob_testsBelow_root :
    compileGlob ("**/*" ++ testEnding {}) = .ok ⟨testsBelowTokens []⟩ := by
  have hchars : ("**/*" ++ testEnding {}).toList =
      '*' :: '*' :: '/' :: '*' :: (testEnding {}).toList := by
    simp
  apply Glob.compileGlob_eq_ok
  · intro rest hdot
    rw [hchars] at hdot
    cases hdot
  · rw [hchars, Glob.readTokens_recursivePrefix, readTokens_zeroOrMore]
    rfl

theorem compileGlob_testsBelow {names : List String} (hne : names ≠ [])
    (hnames : ∀ name ∈ names, IsSingleName name)
    (hplain : ∀ name ∈ names, '\\' ∉ name.toList) :
    compileGlob (Glob.escape ("/".intercalate names) ++ "/**/*" ++ testEnding {}) =
      .ok ⟨testsBelowTokens names⟩ := by
  have hchars : (Glob.escape ("/".intercalate names) ++ "/**/*" ++ testEnding {}).toList =
      (Glob.escape ("/".intercalate names)).toList ++
        '/' :: '*' :: '*' :: '/' :: '*' :: (testEnding {}).toList := by
    simp
  apply Glob.compileGlob_eq_ok
  · intro rest hdot
    rw [hchars] at hdot
    have hmem := Glob.dot_mem_segments_of_escape hdot
    rw [Path.segments_intercalate_names hne hnames] at hmem
    exact (hnames "." hmem).ne_dot rfl
  · have hfree : '\\' ∉ ("/".intercalate names).toList := by
      intro hmem
      rcases Text.mem_toList_intercalate hmem with hslash | ⟨name, hname, hbackslash⟩
      · exact absurd hslash (by decide)
      · exact hplain name hname hbackslash
    obtain ⟨last, hlast⟩ := Glob.readTokens_escape hfree {} rfl none
      ('/' :: '*' :: '*' :: '/' :: '*' :: (testEnding {}).toList)
    rw [hchars, hlast, Glob.readTokens_recursiveZeroOrMore, readTokens_zeroOrMore,
      testsBelowTokens_of_ne_nil hne, Levels.pushAll_append]
    rfl

/-! ## What the globs accept -/

/-- Whether a path is that of a test of a file that is called `base` up to its extension. -/
def isTestOf (extensions : List String) (base path : String) : Bool :=
  extensions.any fun extension => (segments path).getLast? == some (base ++ ".test." ++ extension)

/-- Whether a path is that of a test below the directory to which some names lead. -/
def isTestBelow (extensions names : List String) (path : String) : Bool :=
  names.isPrefixOf (segments path).dropLast && extensions.any fun extension =>
    (segments path).getLast?.any fun last => (".test." ++ extension).toList.isSuffixOf last.toList

/-- No extension of a script source has a slash. -/
theorem no_slash_of_mem_defaultExtensions {extension : String} (h : extension ∈ defaultExtensions) :
    '/' ∉ (".test." ++ extension).toList := by
  simp only [defaultExtensions, List.mem_cons, List.not_mem_nil, or_false] at h
  rcases h with rfl | rfl | rfl | rfl <;> decide

/-- The glob for the tests of a file accepts these. -/
theorem accepts_testsOf {base : String} (hbase : '/' ∉ base.toList) (path : String) :
    Glob.accepts ⟨testsOfTokens base⟩ path = isTestOf defaultExtensions base path := by
  let Q (v : List UInt8) : Prop := ∃ extension ∈ defaultExtensions,
    v = utf8Bytes (base ++ ".test." ++ extension)
  have hname : (sequencePattern (escapedTokens base ++ testTokens)).Means Q := by
    refine (Glob.means_escapedTokens base means_testTokens).congr fun word => ?_
    constructor
    · rintro ⟨_, rfl, extension, hextension, rfl⟩
      exact ⟨extension, hextension, by simp⟩
    · rintro ⟨extension, hextension, rfl⟩
      exact ⟨_, by rw [String.append_assoc, utf8Bytes_append], extension, hextension, rfl⟩
  have hfree (v : List UInt8) (hv : Q v) : slash ∉ v := by
    obtain ⟨extension, hextension, rfl⟩ := hv
    rw [show slash = .ofNat '/'.toNat from rfl, mem_utf8Bytes_iff (by decide), String.append_assoc,
      String.toList_append, List.mem_append, not_or]
    exact ⟨hbase, no_slash_of_mem_defaultExtensions hextension⟩
  have hlength : 1 < (testsOfTokens base).length := by
    simp [testsOfTokens, testTokens]
  rw [Bool.eq_iff_iff, Glob.accepts_eq_true_iff hlength
    (Glob.means_cons Glob.means_recursivePrefix hname), OsText.bytes_ofText,
    Glob.exists_append_iff hfree]
  simp only [isTestOf, List.any_eq_true, beq_iff_eq, Q, utf8Bytes_inj]
  constructor
  · rintro ⟨last, hlast, extension, hextension, rfl⟩
    exact ⟨extension, hextension, hlast⟩
  · rintro ⟨extension, hextension, hlast⟩
    exact ⟨_, hlast, extension, hextension, rfl⟩

/-- Something without slashes in front of the end of test names. -/
def EndsTestName (bytes : List UInt8) : Prop :=
  ∃ start, slash ∉ start ∧ ∃ extension ∈ defaultExtensions,
    bytes = start ++ utf8Bytes (".test." ++ extension)

theorem means_testName :
    (sequencePattern (.zeroOrMore :: testTokens)).Means EndsTestName := by
  refine (Glob.means_cons Glob.means_zeroOrMore means_testTokens).congr fun word => ?_
  constructor
  · rintro ⟨start, _, rfl, hfree, extension, hextension, rfl⟩
    exact ⟨start, hfree, extension, hextension, rfl⟩
  · rintro ⟨start, hfree, extension, hextension, rfl⟩
    exact ⟨start, _, rfl, hfree, extension, hextension, rfl⟩

theorem EndsTestName.no_slash {bytes : List UInt8} (h : EndsTestName bytes) : slash ∉ bytes := by
  obtain ⟨start, hfree, extension, hextension, rfl⟩ := h
  rw [List.mem_append, not_or, show slash = .ofNat '/'.toNat from rfl, mem_utf8Bytes_iff (by decide)]
  exact ⟨hfree, no_slash_of_mem_defaultExtensions hextension⟩

/-- A name ends like the name of a test. -/
theorem endsTestName_utf8Bytes_iff {name : String} (hname : '/' ∉ name.toList) :
    EndsTestName (utf8Bytes name) ↔
      ∃ extension ∈ defaultExtensions, (".test." ++ extension).toList <:+ name.toList := by
  have hdot (extension : String) : ".test." ++ extension = "." ++ ("test." ++ extension) := by
    simp [← String.toList_inj]
  constructor
  · rintro ⟨start, -, extension, hextension, h⟩
    refine ⟨extension, hextension, ?_⟩
    rw [hdot] at h ⊢
    exact exists_utf8Bytes_append_iff.1 ⟨start, h⟩
  · rintro ⟨extension, hextension, h⟩
    rw [hdot] at h
    obtain ⟨start, hstart⟩ := exists_utf8Bytes_append_iff.2 h
    refine ⟨start, fun hslash => ?_, extension, hextension, hdot extension ▸ hstart⟩
    apply hname
    rw [← mem_utf8Bytes_iff (by decide), hstart]
    exact List.mem_append_left _ hslash

/-- A path has whole segments and a name that ends like that of a test. -/
theorem exists_append_testName_iff (path : String) :
    (∃ u v, utf8Bytes path = u ++ v ∧ AreSegments u ∧ EndsTestName v) ↔
      ∃ extension ∈ defaultExtensions, ∃ last, (segments path).getLast? = some last ∧
        (".test." ++ extension).toList <:+ last.toList := by
  have hname {last : String} (hlast : (segments path).getLast? = some last) : '/' ∉ last.toList :=
    Text.no_slash_of_mem_segments (List.mem_of_getLast? hlast)
  rw [Glob.exists_append_iff fun _ => EndsTestName.no_slash]
  constructor
  · rintro ⟨last, hlast, h⟩
    obtain ⟨extension, hextension, hends⟩ := (endsTestName_utf8Bytes_iff (hname hlast)).1 h
    exact ⟨extension, hextension, last, hlast, hends⟩
  · rintro ⟨extension, hextension, last, hlast, hends⟩
    exact ⟨last, hlast, (endsTestName_utf8Bytes_iff (hname hlast)).2 ⟨extension, hextension, hends⟩⟩

/-- The segments of a path start with some names and go on. -/
theorem prefix_dropLast_segments_iff {names : List String} (hne : names ≠ [])
    (hnames : ∀ name ∈ names, IsSingleName name) {path : String} :
    names <+: (segments path).dropLast ↔
      ∃ rest, path = "/".intercalate names ++ "/" ++ rest := by
  constructor
  · rintro ⟨more, hmore⟩
    have hsegments : segments path ≠ [] := Text.segments_ne_nil path
    have hall := List.dropLast_concat_getLast hsegments
    rw [← hmore, List.append_assoc] at hall
    refine ⟨"/".intercalate (more ++ [(segments path).getLast hsegments]), ?_⟩
    rw [← String.intercalate_append_of_ne_nil hne (by simp), hall, Text.intercalate_segments]
  · rintro ⟨rest, rfl⟩
    rw [Text.segments_slash, Path.segments_intercalate_names hne hnames,
      List.dropLast_append_of_ne_nil (Text.segments_ne_nil rest)]
    exact List.prefix_append _ _

theorem isTestBelow_eq_true_iff {extensions names : List String} {path : String} :
    isTestBelow extensions names path = true ↔ names <+: (segments path).dropLast ∧
      ∃ extension ∈ extensions, ∃ last, (segments path).getLast? = some last ∧
        (".test." ++ extension).toList <:+ last.toList := by
  simp [isTestBelow, Option.any_eq_true]

/-- The glob for the tests below a directory accepts these. -/
theorem accepts_testsBelow {names : List String} (hnames : ∀ name ∈ names, IsSingleName name)
    (path : String) :
    Glob.accepts ⟨testsBelowTokens names⟩ path = isTestBelow defaultExtensions names path := by
  rw [Bool.eq_iff_iff, isTestBelow_eq_true_iff]
  by_cases hne : names = []
  · subst hne
    have hlength : 1 < (testsBelowTokens []).length := by
      simp [testsBelowTokens]
    rw [Glob.accepts_eq_true_iff hlength (Glob.means_cons Glob.means_recursivePrefix means_testName),
      OsText.bytes_ofText, exists_append_testName_iff]
    simp
  · have htokens := testsBelowTokens_of_ne_nil hne
    have hlength : 1 < (testsBelowTokens names).length := by
      rw [htokens]
      simp
      omega
    have hmeans := Glob.means_escapedTokens ("/".intercalate names)
      (Glob.means_cons Glob.means_recursiveZeroOrMore means_testName)
    rw [← htokens] at hmeans
    rw [Glob.accepts_eq_true_iff hlength hmeans, OsText.bytes_ofText,
      prefix_dropLast_segments_iff hne hnames]
    constructor
    · rintro ⟨_, hpath, _, v, rfl, ⟨middle, rfl, hmiddle⟩, hv⟩
      obtain ⟨first, rest, rfl, hfirst, hrest⟩ := exists_cut_of_utf8Bytes (c := '/') (by decide) hpath
      obtain rfl := utf8Bytes_inj.1 hfirst
      have hlast := (exists_append_testName_iff rest).1 ⟨middle, v, hrest, hmiddle, hv⟩
      refine ⟨⟨rest, rfl⟩, ?_⟩
      rw [show String.singleton '/' = "/" from rfl, Text.segments_slash,
        List.getLast?_append_of_ne_nil _ (Text.segments_ne_nil rest)]
      exact hlast
    · rintro ⟨⟨rest, rfl⟩, hlast⟩
      rw [Text.segments_slash, List.getLast?_append_of_ne_nil _ (Text.segments_ne_nil rest),
        ← exists_append_testName_iff] at hlast
      obtain ⟨middle, v, hrest, hmiddle, hv⟩ := hlast
      refine ⟨slash :: (middle ++ v), ?_, slash :: middle, v, rfl, ⟨middle, rfl, hmiddle⟩, hv⟩
      rw [utf8Bytes_append, utf8Bytes_append, hrest, List.append_assoc]
      rfl

/-! ## The tests that are found -/

/-- Where there is a glob for the tests of a target, they are found by name. -/
theorem findRelatedTests_eq_findByName {searcher : Searcher} {root : OsText} {target : String}
    {node : Node} (hnode : searcher.world.stat (Path.join root target) = .ok node) {pattern : String}
    (hpattern : testGlob? searcher.config root (Path.join root target) node.isDir = some pattern) :
    findRelatedTests searcher root target = findByName searcher root pattern := by
  have hstat : searcher.stat (Path.join root target) = .ok node := by
    rw [Searcher.stat, hnode]
  unfold findRelatedTests targetPath
  dsimp only
  rw [hstat]
  dsimp only
  rw [hpattern]

/-- **Tests are found by literal names.**  With the default names of queries, the tests of a file are
the files that are called like it up to the extension, then `.test.` and an extension of a script
source; those of a directory lie below it and end so.  They are listed as a search for all files lists
them, with its status.  No character but a backslash in the names means anything else. -/
theorem findRelatedTests_selects_by_name {searcher : Searcher} (root : OsText) (target : String)
    (hqueries : searcher.config.queries = {}) :
    let path := Path.join root target
    let all := (findByName searcher root "**/*").value
    let extensions := searcher.config.queries.sourceExtensions
    (∀ base, searcher.world.exists? path = true → searcher.world.isDir path = false →
      (Path.fileStem? path).map OsText.lossy = some base → '\\' ∉ base.toList →
      (findRelatedTests searcher root target).value =
        ⟨all.value.filter (isTestOf extensions base), all.status⟩) ∧
    ∀ names, searcher.world.isDir path = true → Path.segmentsBelow? root path = some names →
      (∀ name ∈ names, '\\' ∉ name.toList) →
      (findRelatedTests searcher root target).value =
        ⟨all.value.filter (isTestBelow extensions names), all.status⟩ := by
  intro path all extensions
  have hextensions : extensions = defaultExtensions := by
    simp only [extensions, hqueries]
    rfl
  have hending : testEnding searcher.config = testEnding {} := by
    simp only [testEnding, Config.sourceExtensionSet, hqueries]
  rw [hextensions]
  constructor
  · intro base hexists hdir hbase hplain
    obtain ⟨node, hnode⟩ : ∃ node, searcher.world.stat path = .ok node := by
      unfold World.exists? at hexists
      split at hexists
      · exact ⟨_, ‹_›⟩
      · cases hexists
    have hfile : node.isDir = false := by
      simpa [World.isDir, hnode] using hdir
    have hpattern : testGlob? searcher.config root path node.isDir =
        some ("**/" ++ Glob.escape base ++ testEnding {}) := by
      simp only [testGlob?, hfile, hbase, hending, Option.getD_some, Bool.false_eq_true, if_false]
    have hfree : '/' ∉ base.toList := by
      obtain ⟨stem, hstem, rfl⟩ := Option.map_eq_some_iff.1 hbase
      exact fun hslash => Path.no_slash_of_fileStem? hstem
        (OsText.mem_bytes_of_mem_lossy (c := '/') (by decide) hslash)
    rw [findRelatedTests_eq_findByName hnode hpattern,
      findByName_value_eq_filter searcher root (compileGlob_testsOf hplain)]
    simp only [accepts_testsOf hfree]
    rfl
  · intro names hdir hbelow hplain
    obtain ⟨access, entries, hnode⟩ := World.isDir_eq_true_iff.1 hdir
    have hnames := Path.isSingleName_of_segmentsBelow? hbelow
    obtain ⟨pattern, hpattern, hglob⟩ : ∃ pattern,
        testGlob? searcher.config root path true = some pattern ∧
          compileGlob pattern = .ok ⟨testsBelowTokens names⟩ := by
      simp only [testGlob?, if_true, hbelow, hending]
      cases names with
      | nil => exact ⟨_, rfl, compileGlob_testsBelow_root⟩
      | cons name rest =>
        exact ⟨_, rfl, compileGlob_testsBelow (by simp) hnames hplain⟩
    rw [findRelatedTests_eq_findByName hnode hpattern,
      findByName_value_eq_filter searcher root hglob]
    simp only [accepts_testsBelow hnames]
    rfl

/-- Names with all characters that mean something in a glob, but for the backslash, and a file whose
path they would match. -/
def relatedSample : Searcher where
  world := .ofEntries [("/r/d*?/[i],\x7b\x7d!.ts", .text ""),
    ("/r/d*?/[i],\x7b\x7d!.test.js", .text ""), ("/r/dir/i,!.test.js", .text "")]
  config := {}

theorem findRelatedTests_selects_by_name_relatedSample :
    relatedSample.config.queries = {} ∧
      (findRelatedTests relatedSample "/r" "d*?/[i],\x7b\x7d!.ts").value =
        .complete ["d*?/[i],\x7b\x7d!.test.js"] ∧
      (findRelatedTests relatedSample "/r" "d*?").value =
        .complete ["d*?/[i],\x7b\x7d!.test.js"] := by
  have hall : (findByName relatedSample "/r" "**/*").value = .complete
      ["d*?/[i],\x7b\x7d!.test.js", "d*?/[i],\x7b\x7d!.ts", "dir/i,!.test.js"] := by
    decide +kernel
  refine ⟨rfl, ?_, ?_⟩
  · rw [(findRelatedTests_selects_by_name "/r" "d*?/[i],\x7b\x7d!.ts" rfl).1 "[i],\x7b\x7d!"
      (by decide +kernel) (by decide +kernel) (by decide +kernel) (by decide +kernel), hall]
    decide +kernel
  · rw [(findRelatedTests_selects_by_name "/r" "d*?" rfl).2 ["d*?"] (by decide +kernel)
      (by decide +kernel) (by decide +kernel), hall]
    decide +kernel

/-- A file with a backslash in its name, its test, and a test of another file. -/
def backslashSample : Searcher where
  world := .ofEntries [("/repo/a\\b.ts", .text ""), ("/repo/a\\b.test.ts", .text ""),
    ("/repo/ab.test.ts", .text "")]
  config := {}

/-- A backslash in a name is lost: the tests of another file are found. -/
theorem findRelatedTests_differs_from_names_backslashSample :
    backslashSample.world.isFile "/repo/a\\b.ts" = true ∧
      Path.fileStem? "/repo/a\\b.ts" = some ("a\\b" : OsText) ∧
      (findByName backslashSample "/repo" "**/*").value.value.filter
        (isTestOf backslashSample.config.queries.sourceExtensions "a\\b") = ["a\\b.test.ts"] ∧
      (findRelatedTests backslashSample "/repo" "a\\b.ts").value = .complete ["ab.test.ts"] := by
  decide +kernel

end CodeSearch
