import CodeSearch.Proofs.Import.Resolution
import CodeSearch.Proofs.Query.Targets
import Mathlib.Data.List.Basic

/-!
# The styles of a component

The sources of a component are searched for by name, and the style files are those that their imports
mean.  What `findStyles` lists and counts depends on each import with its source alone
(`findStyles_lists_imported_styles`).  Which imports are examined is seen from the specifier, and what
it resolves to ends alike (`suffix_of_resolveRelative?`).
-/

namespace CodeSearch

/-! ## Endings of specifiers -/

/-- What ends as a single name does is a single name if it has no slash. -/
theorem IsSingleName.of_suffix {ending name : String} (h : IsSingleName ending)
    (hsuffix : ending.toList <:+ name.toList) (hfree : '/' ∉ name.toList) : IsSingleName name := by
  have hnil : ending.toList ≠ "".toList := mt String.toList_inj.1 h.ne_empty
  have hdot : ending.toList ≠ ".".toList := mt String.toList_inj.1 h.ne_dot
  have hdotdot : ending.toList ≠ "..".toList := mt String.toList_inj.1 h.ne_dotdot
  refine ⟨?_, ?_, ?_, hfree⟩
  all_goals
    rintro rfl
    simp_all [List.suffix_cons_iff]

/-- What a specifier means ends as the specifier does. -/
theorem suffix_of_resolveRelative? {importer specifier path ending : String}
    (hending : IsSingleName ending) (hsuffix : ending.toList <:+ specifier.toList)
    (h : resolveRelative? importer specifier = some path) : ending.toList <:+ path.toList := by
  obtain ⟨before, last, hsegments, hlast⟩ := Text.exists_segments_concat hending.no_slash hsuffix
  have hmem : last ∈ Text.segments specifier := by simp [hsegments]
  have hname : ∀ name ∈ [last], IsSingleName name :=
    List.forall_mem_singleton.2 (hending.of_suffix hlast (Text.no_slash_of_mem_segments hmem))
  unfold resolveRelative? at h
  dsimp only at h
  split at h
  · cases h
  · cases h
  · rename_i target hne htarget
    obtain rfl := Option.some.inj h
    -- the last segment is a name, so it is the last one of the target
    rw [hsegments, List.foldlM_append] at htarget
    obtain ⟨directory, -, hstep⟩ := Option.bind_eq_some_iff.1 htarget
    rw [foldlM_followSpecifier_append hname] at hstep
    obtain rfl := Option.some.inj hstep
    exact hlast.trans (Text.suffix_intercalate_concat directory last)

/-- A text ends with a dot and one of some extensions. -/
def EndsWithExtension (extensions : List String) (text : String) : Prop :=
  ∃ extension ∈ extensions, ("." ++ extension).toList <:+ text.toList

theorem isStyleSpecifier_iff {config : Config} {specifier : String} :
    isStyleSpecifier config specifier = true ↔
      EndsWithExtension config.queries.styleExtensions specifier := by
  simp only [isStyleSpecifier, EndsWithExtension, List.any_eq_true, List.isSuffixOf_iff_suffix]

/-- The path under which a style import in `source` is looked up: what its specifier resolves to, if it
ends like a style file. -/
def MeansStyle (config : Config) (source : String) (reference : ImportReference) (path : String) :
    Prop :=
  EndsWithExtension config.queries.styleExtensions reference.specifier ∧
    reference.isRelative = true ∧ resolveRelative? source reference.specifier = some path

/-- With extensions of files a style import means a path that ends like a style file. -/
theorem MeansStyle.endsWithExtension {config : Config} {source path : String}
    {reference : ImportReference} (h : MeansStyle config source reference path)
    (hextensions : ∀ extension ∈ config.queries.styleExtensions, IsSingleName ("." ++ extension)) :
    EndsWithExtension config.queries.styleExtensions path := by
  obtain ⟨⟨extension, hextension, hsuffix⟩, -, hresolved⟩ := h
  exact ⟨extension, hextension,
    suffix_of_resolveRelative? (hextensions extension hextension) hsuffix hresolved⟩

/-! ## Imports of sources -/

/-- The path under which an import in `source` is looked up, if it is a style import. -/
def styleTarget? (config : Config) (source : String) (reference : ImportReference) : Option String :=
  if isStyleSpecifier config reference.specifier then reference.resolve? source else none

theorem styleTarget?_eq_some_iff {config : Config} {source path : String}
    {reference : ImportReference} :
    styleTarget? config source reference = some path ↔ MeansStyle config source reference path := by
  unfold styleTarget? MeansStyle
  rw [← isStyleSpecifier_iff, ← resolve?_eq_some_iff]
  split <;> simp_all

theorem styleTargets_eq (config : Config) (source text : String) :
    styleTargets config source text =
      (extractAllImports text).filterMap (styleTarget? config source) :=
  List.filterMap_filter

variable (searcher : Searcher) (root : OsText)

/-- Whether a source cannot be read as a text. -/
def isUnreadable (source : String) : Bool :=
  (fault? (searcher.readText (Path.join root source))).isSome

/-- The imports of a source, each with the source; none if the source cannot be read. -/
def importsOf (source : String) : List (String × ImportReference) :=
  match searcher.readText (Path.join root source) with
  | .ok text => (extractAllImports text).map fun reference => (source, reference)
  | .error _ => []

/-- The style file that an import in a source contributes, if it contributes one. -/
def styleFile? (sourced : String × ImportReference) : Option String :=
  examined? searcher root (styleTarget? searcher.config sourced.1) sourced.2

/-- Whether the path of a style import in a source could not be examined. -/
def isStyleFault (sourced : String × ImportReference) : Bool :=
  isUnexamined searcher root (styleTarget? searcher.config sourced.1) sourced.2

variable {searcher root}

theorem styleFile?_eq_some_iff {source path : String} {reference : ImportReference} :
    styleFile? searcher root (source, reference) = some path ↔
      MeansStyle searcher.config source reference path ∧ IsFound searcher root path := by
  rw [styleFile?, examined?_eq_some_iff, styleTarget?_eq_some_iff]

theorem isStyleFault_iff {source : String} {reference : ImportReference} :
    isStyleFault searcher root (source, reference) = true ↔
      ∃ path, MeansStyle searcher.config source reference path ∧ IsRefused searcher root path := by
  simp only [isStyleFault, isUnexamined_iff, styleTarget?_eq_some_iff]

theorem styleFile?_of_isStyleFault {sourced : String × ImportReference}
    (h : isStyleFault searcher root sourced = true) : styleFile? searcher root sourced = none :=
  examined?_of_isUnexamined h

theorem importsOf_of_unreadable {source : String} (h : isUnreadable searcher root source = true) :
    importsOf searcher root source = [] := by
  unfold isUnreadable at h
  unfold importsOf
  split
  · rename_i text hread
    simp [hread] at h
  · rfl

/-- What one source contributes. -/
theorem stylesOf_eq (source : String) :
    stylesOf searcher root source =
      (importsOf searcher root source).filterMap (styleFile? searcher root) := by
  unfold importsOf
  cases hread : searcher.readText (Path.join root source) with
  | error e => exact (styles_of_unreadable hread).1
  | ok text =>
    rw [(styles_of_read hread).1, styleTargets_eq, filter_filterMap_target, List.filterMap_map]
    rfl

/-- A source counts once if it cannot be read, and once for each import whose path cannot be
examined. -/
theorem length_styleFaults (source : String) :
    (styleFaults searcher root source).length =
      (if isUnreadable searcher root source then 1 else 0) +
        (importsOf searcher root source).countP (isStyleFault searcher root) := by
  unfold importsOf isUnreadable
  cases hread : searcher.readText (Path.join root source) with
  | error e => simp [(styles_of_unreadable hread).2]
  | ok text =>
    rw [(styles_of_read hread).2, styleTargets_eq, length_faults_filterMap_target, List.countP_map,
      fault?_ok]
    exact (Nat.zero_add _).symm

theorem length_flatMap_styleFaults (sources : List String) :
    (sources.flatMap (styleFaults searcher root)).length =
      sources.countP (isUnreadable searcher root) +
        (sources.flatMap (importsOf searcher root)).countP (isStyleFault searcher root) := by
  induction sources with
  | nil => rfl
  | cons source rest ih =>
    rw [List.flatMap_cons, List.flatMap_cons, List.length_append, List.countP_append,
      List.countP_cons, length_styleFaults, ih]
    omega

/-- What looking for the styles of a component comes to. -/
theorem findStyles_value_of_imports {component : String}
    (h : (sourceSearch searcher root component).value.status ≠ .failed) :
    (findStyles searcher root component).value =
      let search := (sourceSearch searcher root component).value
      let imports := search.value.flatMap (importsOf searcher root)
      .withSkipped (imports.filterMap (styleFile? searcher root))
        (search.status.skipped + search.value.countP (isUnreadable searcher root) +
          imports.countP (isStyleFault searcher root)) := by
  have hflat (sources : List String) : sources.flatMap (stylesOf searcher root) =
      (sources.flatMap (importsOf searcher root)).filterMap (styleFile? searcher root) := by
    rw [List.filterMap_flatMap]
    exact congrArg sources.flatMap (funext stylesOf_eq)
  rw [findStyles_value h, hflat, length_flatMap_styleFaults, ← Nat.add_assoc]

/-- With the default extensions every style file that is found ends in one of them. -/
theorem suffix_of_styleFile?
    (hdefault : searcher.config.queries.styleExtensions = ({} : Config).queries.styleExtensions)
    {sourced : String × ImportReference} {path : String}
    (h : styleFile? searcher root sourced = some path) :
    ".css".toList <:+ path.toList ∨ ".scss".toList <:+ path.toList := by
  have hnames : ∀ extension ∈ ({} : Config).queries.styleExtensions,
      IsSingleName ("." ++ extension) := by
    decide
  have hends := (styleFile?_eq_some_iff.1 h).1.endsWithExtension (hdefault ▸ hnames)
  rw [hdefault] at hends
  obtain ⟨extension, hextension, hsuffix⟩ := hends
  rcases List.mem_pair.1 hextension with rfl | rfl
  · exact .inl hsuffix
  · exact .inr hsuffix

/-- **Styles of a component.**  Once its sources are searched for, the style files are those that the
imports of the sources mean, source by source and with repetitions; the status counts what the search
skipped, the sources that cannot be read and the imports whose path cannot be examined.  A source or
an import that is counted takes nothing away from the others.  With the default extensions every style
file ends in one of them. -/
theorem findStyles_lists_imported_styles {component : String}
    (h : (sourceSearch searcher root component).value.status ≠ .failed) :
    let search := (sourceSearch searcher root component).value
    let imports := search.value.flatMap (importsOf searcher root)
    let styles := (findStyles searcher root component).value
    styles = .withSkipped (imports.filterMap (styleFile? searcher root))
        (search.status.skipped + search.value.countP (isUnreadable searcher root) +
          imports.countP (isStyleFault searcher root)) ∧
      (∀ source reference path, styleFile? searcher root (source, reference) = some path ↔
        MeansStyle searcher.config source reference path ∧ IsFound searcher root path) ∧
      (∀ source reference, isStyleFault searcher root (source, reference) = true ↔
        ∃ path, MeansStyle searcher.config source reference path ∧ IsRefused searcher root path) ∧
      (∀ before source after, search.value = before ++ source :: after →
        isUnreadable searcher root source = true →
        styles.value = ((before ++ after).flatMap (importsOf searcher root)).filterMap
          (styleFile? searcher root)) ∧
      (∀ before sourced after, imports = before ++ sourced :: after →
        isStyleFault searcher root sourced = true →
        styles.value = (before ++ after).filterMap (styleFile? searcher root)) ∧
      (searcher.config.queries.styleExtensions = ({} : Config).queries.styleExtensions →
        ∀ path ∈ styles.value, ".css".toList <:+ path.toList ∨ ".scss".toList <:+ path.toList) := by
  intro search imports styles
  have hvalue : styles.value = imports.filterMap (styleFile? searcher root) := by
    rw [show styles = _ from findStyles_value_of_imports h, Outcome.value_withSkipped]
  refine ⟨findStyles_value_of_imports h, fun _ _ _ => styleFile?_eq_some_iff,
    fun _ _ => isStyleFault_iff, ?_, ?_, ?_⟩
  · intro before source after hsearch hunreadable
    simp only [hvalue, imports, hsearch, List.flatMap_append, List.flatMap_cons,
      importsOf_of_unreadable hunreadable, List.nil_append]
  · intro before sourced after himports hfault
    rw [hvalue, himports, List.filterMap_append, List.filterMap_append,
      List.filterMap_cons_none (styleFile?_of_isStyleFault hfault)]
  · intro hdefault path hpath
    rw [hvalue] at hpath
    obtain ⟨sourced, -, hfile⟩ := List.mem_filterMap.1 hpath
    exact suffix_of_styleFile? hdefault hfile

/-- A component with a source in a directory, one that is no text and one whose import goes through a
file. -/
def styleSample : Searcher where
  world := .ofEntries [("/d/c.ts", .text "import '../a.css';import './a.css'"), ("/a.css", .text ""),
    ("/c.js", .file (some ⟨#[255]⟩) default), ("/c.ts", .text "import './a.css/b.css';import './a.css'")]
  config := {}

theorem findStyles_lists_imported_styles_styleSample :
    (sourceSearch styleSample "/" "c").value.status ≠ .failed ∧
      (findStyles styleSample "/" "c").value = ⟨["a.css", "a.css"], .incomplete 2⟩ := by
  have hsearch : (sourceSearch styleSample "/" "c").value.status ≠ .failed := by
    decide +kernel
  refine ⟨hsearch, ?_⟩
  rw [(findStyles_lists_imported_styles hsearch).1]
  decide +kernel

end CodeSearch
