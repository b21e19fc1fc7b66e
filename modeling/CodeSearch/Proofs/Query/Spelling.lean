import CodeSearch.Proofs.Query.MissingRoot
import CodeSearch.Proofs.Tree.LinkFree

/-!
# Spellings of a target

The queries on a file open it by its path as given, and take its name, the directory of its imports and
the glob of its tests from the folded path.  Where there are no symbolic links the two denote the same
file, so the answer is the same for all spellings that can be opened
(`run_value_ignores_spelling`), and whether a target lies below the root is a matter of its folded path
as well.
-/

namespace CodeSearch

open CodeSearch.Path (Folded)

/-- Some names lead from a root down to a path, once both are folded. -/
def Path.LiesBelow (root path : OsText) : Prop :=
  ∃ names, names ≠ [] ∧ Folded.ofPath path =
    { Folded.ofPath root with names := (Folded.ofPath root).names ++ names }

theorem Path.relativePath_eq_none_iff {root path : OsText} :
    relativePath root path = none ↔ ¬ LiesBelow root path := by
  rw [Option.eq_none_iff_forall_ne_some]
  constructor
  · rintro h ⟨names, hne, hbelow⟩
    exact h _ (relativePath_eq_some_iff.2 ⟨names, hne, Folded.below?_eq_some_iff.2 hbelow, rfl⟩)
  · intro h relative hrelative
    obtain ⟨names, hne, hbelow, -⟩ := relativePath_eq_some_iff.1 hrelative
    exact h ⟨names, hne, Folded.below?_eq_some_iff.1 hbelow⟩

variable {searcher : Searcher} {root : OsText}

theorem isAbsolute_targetPath (hroot : Path.isAbsolute root = true) (target : String) :
    Path.isAbsolute (targetPath root target) = true :=
  Path.isAbsolute_join hroot target

/-! ## Targets outside the root -/

/-- A file that does not lie below the root is not read. -/
theorem readImporter_of_outside (searcher : Searcher) {file : String}
    (h : ¬ Path.LiesBelow root (targetPath root file)) :
    readImporter searcher root file = .error (.outside file) := by
  unfold readImporter
  dsimp only
  rw [Path.relativePath_eq_none_iff.2 h]

/-! ## Two spellings of one path -/

/-- Two paths fold to the same, and both denote something. -/
structure World.SameTarget (world : World) (path other : OsText) : Prop where
  folded : Folded.ofPath path = Folded.ofPath other
  first : world.exists? path = true
  second : world.exists? other = true

section Same

variable {path other : OsText} (hfree : searcher.world.tree.top.isLinkFree = true)
  (hpath : Path.isAbsolute path = true) (hother : Path.isAbsolute other = true)
  (h : searcher.world.SameTarget path other)
include hfree hpath hother h

/-- What both paths denote. -/
theorem World.SameTarget.exists_stat :
    ∃ node, searcher.world.stat path = .ok node ∧ searcher.world.stat other = .ok node := by
  have hfirst := h.first
  have hsecond := h.second
  unfold exists? at hfirst hsecond
  cases hnode : searcher.world.stat path with
  | error e => simp [hnode] at hfirst
  | ok node =>
    cases hnode' : searcher.world.stat other with
    | error e => simp [hnode'] at hsecond
    | ok node' =>
      obtain rfl := stat_congr hfree hpath h.folded hother hnode hnode'
      exact ⟨node, rfl, rfl⟩

/-- Both paths are read alike, but for the path in the words of an error. -/
theorem World.SameTarget.toOption_readText :
    (searcher.readText path).toOption = (searcher.readText other).toOption := by
  obtain ⟨node, hnode, hnode'⟩ := h.exists_stat hfree hpath hother
  have hread : searcher.world.readText path = searcher.world.readText other := by
    unfold readText readBytes
    rw [hnode, hnode']
  unfold Searcher.readText
  rw [hread]
  cases searcher.world.readText other <;> rfl

/-- The tests of both are looked for with one glob. -/
theorem World.SameTarget.testGlob?_eq (config : Config) (root : OsText) {node : Node}
    (hnode : searcher.world.stat path = .ok node) (hnode' : searcher.world.stat other = .ok node) :
    testGlob? config root path node.isDir = testGlob? config root other node.isDir := by
  have hbelow : Path.segmentsBelow? root path = Path.segmentsBelow? root other := by
    rw [Path.segmentsBelow?, Path.namesBelow?, h.folded, Path.segmentsBelow?, Path.namesBelow?]
  unfold testGlob?
  rw [hbelow]
  cases hfile : node.isDir with
  | true => simp only [if_true]
  | false =>
    have hstem : Path.fileStem? path = Path.fileStem? other := by
      unfold Path.fileStem?
      rw [fileName?_of_stat hfree hpath hnode hfile, fileName?_of_stat hfree hother hnode' hfile,
        h.folded]
    rw [hstem]

end Same

/-! ## The queries on a file -/

/-- A query on a file depends on what is read for it, whatever the reason why nothing is. -/
theorem withImporter_value_congr {first second : String}
    (h : (readImporter searcher root first).toOption =
      (readImporter searcher root second).toOption)
    (operation : String) (query : String → String → Logged Outcome) :
    (withImporter searcher root first operation query).value =
      (withImporter searcher root second operation query).value := by
  unfold withImporter
  cases hfirst : readImporter searcher root first with
  | error e =>
    cases hsecond : readImporter searcher root second with
    | error e' => rfl
    | ok read => rw [hfirst, hsecond] at h; cases h
  | ok read =>
    cases hsecond : readImporter searcher root second with
    | error e' => rw [hfirst, hsecond] at h; cases h
    | ok read' =>
      rw [hfirst, hsecond] at h
      obtain rfl : read = read' := Option.some.inj h
      rfl

section Spelling

variable {first second : String} (hfree : searcher.world.tree.top.isLinkFree = true)
  (hroot : Path.isAbsolute root = true)
  (h : searcher.world.SameTarget (targetPath root first) (targetPath root second))
include hfree hroot h

/-- One file is read for both spellings, under one name. -/
theorem toOption_readImporter_congr :
    (readImporter searcher root first).toOption = (readImporter searcher root second).toOption := by
  have htext := h.toOption_readText hfree (isAbsolute_targetPath hroot first)
    (isAbsolute_targetPath hroot second)
  have hname : Path.relativePath root (targetPath root first) =
      Path.relativePath root (targetPath root second) := by
    unfold Path.relativePath Path.segmentsBelow? Path.namesBelow?
    rw [h.folded]
  unfold readImporter
  dsimp only
  rw [hname]
  cases Path.relativePath root (targetPath root second) with
  | none => rfl
  | some relative =>
    have hmap (read : Except SearchError String) :
        (read.map fun text => (relative, text)).toOption =
          read.toOption.map fun text => (relative, text) := by
      cases read <;> rfl
    dsimp only
    rw [hmap, hmap, htext]

theorem findRelatedTests_value_congr :
    (findRelatedTests searcher root first).value =
      (findRelatedTests searcher root second).value := by
  have hfirst := isAbsolute_targetPath hroot first
  have hsecond := isAbsolute_targetPath hroot second
  obtain ⟨node, hnode, hnode'⟩ := h.exists_stat hfree hfirst hsecond
  have hglob := h.testGlob?_eq hfree hfirst hsecond searcher.config root hnode hnode'
  unfold findRelatedTests Searcher.stat
  dsimp only
  rw [hnode, hnode']
  dsimp only
  rw [hglob]
  split <;> rfl

end Spelling

/-- **The spelling of a target plays no part.**  Without symbolic links, the queries on a file answer
alike for any two spellings of its path that denote something, and those that read it fail for every
target that does not lie below the root. -/
theorem run_value_ignores_spelling (hfree : searcher.world.tree.top.isLinkFree = true)
    (hroot : Path.isAbsolute root = true) :
    (∀ first second : String,
      Folded.ofPath (targetPath root first) = Folded.ofPath (targetPath root second) →
      searcher.world.exists? (targetPath root first) = true →
      searcher.world.exists? (targetPath root second) = true →
      (findImported searcher root first).value = (findImported searcher root second).value ∧
      (findDependencies searcher root first).value =
        (findDependencies searcher root second).value ∧
      (findRelatedClasses searcher root first).value =
        (findRelatedClasses searcher root second).value ∧
      (findRelatedTests searcher root first).value =
        (findRelatedTests searcher root second).value) ∧
    ∀ target : String, ¬ Path.LiesBelow root (targetPath root target) →
      (findImported searcher root target).value = .failed ∧
      (findDependencies searcher root target).value = .failed ∧
      (findRelatedClasses searcher root target).value = .failed := by
  refine ⟨fun first second hfolded hfirst hsecond => ?_, fun target houtside => ?_⟩
  · have hsame : searcher.world.SameTarget (targetPath root first) (targetPath root second) :=
      ⟨hfolded, hfirst, hsecond⟩
    have hread := toOption_readImporter_congr hfree hroot hsame
    exact ⟨withImporter_value_congr hread _ _, withImporter_value_congr hread _ _,
      withImporter_value_congr hread _ _, findRelatedTests_value_congr hfree hroot hsame⟩
  · have hread := readImporter_of_outside searcher houtside
    exact ⟨withImporter_of_error hread, withImporter_of_error hread, withImporter_of_error hread⟩

/-- A class with its base and its test, beside a file outside the root that imports the class. -/
def spellingSample : Searcher where
  world := .ofEntries [("/r/src/a.ts", .text "import b from './b'; class A extends B {}"),
    ("/r/src/b.ts", .text "class B {}"), ("/r/src/a.test.ts", .text ""),
    ("/out.ts", .text "import a from './r/src/a'")]
  config := {}

theorem run_value_ignores_spelling_spellingSample :
    (spellingSample.world.tree.top.isLinkFree = true ∧ Path.isAbsolute "/r/" = true) ∧
      (findRelatedClasses spellingSample "/r/" "src/./../../r//src/a.ts").value =
        .complete ["src/b.ts"] ∧
      (findRelatedTests spellingSample "/r/" "src/./../../r//src/a.ts").value =
        .complete ["src/a.test.ts"] ∧
      (findImported spellingSample "/r/" "src/../../out.ts").value = .failed := by
  have hfree : spellingSample.world.tree.top.isLinkFree = true := by decide +kernel
  have hroot : Path.isAbsolute "/r/" = true := by decide
  obtain ⟨hspelling, houtside⟩ := run_value_ignores_spelling hfree hroot
  obtain ⟨-, -, hclasses, htests⟩ := hspelling "src/./../../r//src/a.ts" "/r/src/a.ts"
    (by decide +kernel) (by decide +kernel) (by decide +kernel)
  refine ⟨⟨hfree, hroot⟩, ?_, ?_, (houtside "src/../../out.ts" ?_).1⟩
  · rw [hclasses]
    decide +kernel
  · rw [htests]
    decide +kernel
  · rw [← Path.relativePath_eq_none_iff]
    decide +kernel

end CodeSearch
