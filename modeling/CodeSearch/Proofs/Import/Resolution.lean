import CodeSearch.Proofs.Import

/-!
# Where relative specifiers lead

Two functions fold `.` and `..` away: `resolveRelative?` follows a specifier from the directory of the
file that imports, and `Path.relativePath` names a path from a root.  A step of the one is a step of the
other as long as the way stays at or below the root (`foldl_step_of_foldlM_followSpecifier`), and
whether it does is a matter of counting levels (`exists_foldlM_followSpecifier_iff`).  So the two agree
(`resolveRelative?_agrees`), and every file can be named from every other one.
-/

namespace CodeSearch

open CodeSearch.Path (Folded)
open CodeSearch.Text (segments)

/-! ## Levels -/

/-- How many levels a segment leads down; `..` leads one level up. -/
def descent (segment : String) : Int :=
  if segment = "" ∨ segment = "." then 0 else if segment = ".." then -1 else 1

/-- How many levels some segments lead down together. -/
def totalDescent : (way : List String) → Int
  | [] => 0
  | segment :: rest => descent segment + totalDescent rest

/-- Some segments do not lead above the root, not even on the way, from `depth` levels below it. -/
def StaysBelow (depth : Int) (way : List String) : Prop :=
  ∀ start, start <+: way → 0 ≤ depth + totalDescent start

@[simp] theorem totalDescent_nil : totalDescent [] = 0 := rfl

@[simp] theorem totalDescent_cons (segment : String) (rest : List String) :
    totalDescent (segment :: rest) = descent segment + totalDescent rest := rfl

theorem StaysBelow.nonneg {depth : Int} {way : List String} (h : StaysBelow depth way) :
    0 ≤ depth := by
  simpa using h [] List.nil_prefix

theorem staysBelow_nil {depth : Int} : StaysBelow depth [] ↔ 0 ≤ depth := by
  simp [StaysBelow]

theorem staysBelow_cons {depth : Int} {segment : String} {rest : List String} :
    StaysBelow depth (segment :: rest) ↔
      0 ≤ depth ∧ StaysBelow (depth + descent segment) rest := by
  constructor
  · intro h
    refine ⟨h.nonneg, fun start hstart => ?_⟩
    have hwhole := h (segment :: start) ((List.prefix_cons_inj segment).2 hstart)
    rw [totalDescent_cons] at hwhole
    omega
  · rintro ⟨hdepth, hrest⟩ start hstart
    rcases List.prefix_cons_iff.1 hstart with rfl | ⟨later, rfl, hlater⟩
    · simpa using hdepth
    · have hlater := hrest later hlater
      rw [totalDescent_cons]
      omega

/-! ## Following segments -/

section Follow

variable {directory target : List String}

/-- A segment can be followed unless it leads above the root. -/
theorem exists_followSpecifier_iff {segment : String} :
    (∃ target, followSpecifier directory segment = some target) ↔
      0 ≤ (directory.length : Int) + descent segment := by
  unfold followSpecifier descent
  split
  · simp
  · split
    · cases directory with
      | nil => simp
      | cons name rest =>
        refine ⟨fun _ => ?_, fun _ => ⟨_, rfl⟩⟩
        rw [List.length_cons]
        omega
    · exact ⟨fun _ => by omega, fun _ => ⟨_, rfl⟩⟩

theorem length_followSpecifier {segment : String}
    (h : followSpecifier directory segment = some target) :
    (target.length : Int) = directory.length + descent segment := by
  unfold followSpecifier at h
  unfold descent
  split at h
  · rename_i hstay
    obtain rfl := Option.some.inj h
    simp [hstay]
  · rename_i hstay
    split at h
    · rename_i hup
      cases directory with
      | nil => cases h
      | cons name rest =>
        obtain rfl := Option.some.inj h
        rw [if_neg hstay, if_pos hup, List.length_dropLast, List.length_cons]
        omega
    · rename_i hup
      obtain rfl := Option.some.inj h
      simp [hstay, hup]

/-- A segment that can be followed is folded into a path below a root alike. -/
theorem step_of_followSpecifier {segment : String}
    (h : followSpecifier directory segment = some target) (f : Folded) :
    Folded.step { f with names := f.names ++ directory.map OsText.ofText } segment =
      { f with names := f.names ++ target.map OsText.ofText } := by
  unfold followSpecifier at h
  unfold Folded.step
  simp only [OsText.ofText_inj]
  split at h
  · rename_i hstay
    obtain rfl := Option.some.inj h
    rw [if_pos hstay]
  · rename_i hstay
    rw [if_neg hstay]
    split at h
    · rename_i hup
      rw [if_pos hup]
      split at h
      · cases h
      · rename_i hne
        obtain rfl := Option.some.inj h
        have hne : directory.map OsText.ofText ≠ [] := by simpa using hne
        simp [Folded.up, hne, List.dropLast_append_of_ne_nil hne, List.map_dropLast]
    · rename_i hup
      obtain rfl := Option.some.inj h
      rw [if_neg hup, List.append_assoc, List.map_append, List.map_singleton]

/-- Segments can be followed if they stay below the root. -/
theorem exists_foldlM_followSpecifier_iff {way : List String} :
    (∃ target, way.foldlM followSpecifier directory = some target) ↔
      StaysBelow directory.length way := by
  induction way generalizing directory with
  | nil => simp [staysBelow_nil]
  | cons segment rest ih =>
    rw [staysBelow_cons]
    constructor
    · rintro ⟨target, h⟩
      rw [List.foldlM_cons] at h
      obtain ⟨next, hnext, hrest⟩ := Option.bind_eq_some_iff.1 h
      have hbelow := ih.1 ⟨target, hrest⟩
      rw [length_followSpecifier hnext] at hbelow
      exact ⟨by omega, hbelow⟩
    · rintro ⟨-, hrest⟩
      obtain ⟨next, hnext⟩ := exists_followSpecifier_iff.2 hrest.nonneg
      rw [← length_followSpecifier hnext] at hrest
      obtain ⟨target, htarget⟩ := ih.2 hrest
      refine ⟨target, ?_⟩
      rw [List.foldlM_cons, hnext]
      exact htarget

theorem length_foldlM_followSpecifier {way : List String}
    (h : way.foldlM followSpecifier directory = some target) :
    (target.length : Int) = directory.length + totalDescent way := by
  induction way generalizing directory with
  | nil =>
    obtain rfl := Option.some.inj h
    simp
  | cons segment rest ih =>
    rw [List.foldlM_cons] at h
    obtain ⟨next, hnext, hrest⟩ := Option.bind_eq_some_iff.1 h
    rw [ih hrest, length_followSpecifier hnext, totalDescent_cons]
    omega

/-- Segments that can be followed are folded into a path below a root alike. -/
theorem foldl_step_of_foldlM_followSpecifier {way : List String}
    (h : way.foldlM followSpecifier directory = some target) (f : Folded) :
    (way.map OsText.ofText).foldl Folded.step
        { f with names := f.names ++ directory.map OsText.ofText } =
      { f with names := f.names ++ target.map OsText.ofText } := by
  induction way generalizing directory with
  | nil =>
    obtain rfl := Option.some.inj h
    rfl
  | cons segment rest ih =>
    rw [List.foldlM_cons] at h
    obtain ⟨next, hnext, hrest⟩ := Option.bind_eq_some_iff.1 h
    rw [List.map_cons, List.foldl_cons, step_of_followSpecifier hnext, ih hrest]

/-- Following segments from single names ends at single names. -/
theorem isSingleName_of_foldlM_followSpecifier {way : List String}
    (hdirectory : ∀ name ∈ directory, IsSingleName name)
    (hway : ∀ segment ∈ way, '/' ∉ segment.toList)
    (h : way.foldlM followSpecifier directory = some target) :
    ∀ name ∈ target, IsSingleName name := by
  have hfold := foldl_step_of_foldlM_followSpecifier h ⟨false, 0, []⟩
  simp only [List.nil_append] at hfold
  have hsegments : ∀ segment ∈ way.map OsText.ofText, slash ∉ segment.bytes := by
    intro segment hsegment
    obtain ⟨text, htext, rfl⟩ := List.mem_map.1 hsegment
    exact OsText.slash_mem_ofText_iff.not.2 (hway text htext)
  have hkept := Folded.foldl_step_keeps_names (f := ⟨false, 0, directory.map OsText.ofText⟩)
    (forall_isEntryName_map hdirectory) hsegments
  rw [hfold] at hkept
  exact fun name hname => isSingleName_iff.2 (hkept name (List.mem_map_of_mem hname))

/-- Single names lead down. -/
theorem foldlM_followSpecifier_append {names : List String}
    (h : ∀ name ∈ names, IsSingleName name) :
    names.foldlM followSpecifier directory = some (directory ++ names) := by
  induction names generalizing directory with
  | nil => simp
  | cons name rest ih =>
    obtain ⟨hname, hrest⟩ := List.forall_mem_cons.1 h
    have hstep : followSpecifier directory name = some (directory ++ [name]) := by
      simp [followSpecifier, hname.ne_empty, hname.ne_dot, hname.ne_dotdot]
    rw [List.foldlM_cons, hstep, Option.bind_eq_bind, Option.bind_some, ih hrest]
    simp

/-- As many times up as there are names leads to the root. -/
theorem foldlM_followSpecifier_replicate (rest : List String) :
    (List.replicate directory.length ".." ++ rest).foldlM followSpecifier directory =
      rest.foldlM followSpecifier [] := by
  generalize hlength : directory.length = levels
  induction levels generalizing directory with
  | zero =>
    obtain rfl := List.length_eq_zero_iff.1 hlength
    rfl
  | succ levels ih =>
    have hne : directory ≠ [] := by
      rintro rfl
      cases hlength
    have hup : followSpecifier directory ".." = some directory.dropLast := by
      simp [followSpecifier, hne]
    rw [List.replicate_succ, List.cons_append, List.foldlM_cons, hup, Option.bind_eq_bind,
      Option.bind_some, ih (by simp [hlength])]

end Follow

/-! ## Specifiers -/

theorem resolveRelative?_eq_some_iff {importer specifier path : String}
    (h : Path.IsNormal importer) :
    resolveRelative? importer specifier = some path ↔
      ∃ target, target ≠ [] ∧ path = "/".intercalate target ∧
        (segments specifier).foldlM followSpecifier (segments importer).dropLast = some target := by
  have hnames : (segments importer).filter (fun s => s ≠ "" ∧ s ≠ ".") = segments importer := by
    rw [List.filter_eq_self]
    intro segment hsegment
    simp [(h segment hsegment).ne_empty, (h segment hsegment).ne_dot]
  unfold resolveRelative?
  rw [hnames]
  dsimp only
  constructor
  · intro hresolve
    split at hresolve
    · cases hresolve
    · cases hresolve
    · rename_i target hne htarget
      exact ⟨target, hne, (Option.some.inj hresolve).symm, htarget⟩
  · rintro ⟨target, hne, rfl, htarget⟩
    rw [htarget]
    cases target with
    | nil => exact absurd rfl hne
    | cons name rest => rfl

/-- A specifier means something below the root if it neither leads above it nor back to it. -/
theorem exists_resolveRelative?_iff {importer specifier : String} (h : Path.IsNormal importer) :
    (∃ path, resolveRelative? importer specifier = some path) ↔
      StaysBelow (Path.depth importer) (segments specifier) ∧
        Path.depth importer + totalDescent (segments specifier) ≠ 0 := by
  have hnonempty {target : List String}
      (htarget : (segments specifier).foldlM followSpecifier (segments importer).dropLast =
        some target) :
      target ≠ [] ↔ Path.depth importer + totalDescent (segments specifier) ≠ 0 := by
    have hlength := length_foldlM_followSpecifier htarget
    rw [Ne, ← List.length_eq_zero_iff, Path.depth, ← hlength]
    omega
  rw [Path.depth, ← exists_foldlM_followSpecifier_iff, ← Path.depth]
  constructor
  · rintro ⟨path, hpath⟩
    obtain ⟨target, hne, -, htarget⟩ := (resolveRelative?_eq_some_iff h).1 hpath
    exact ⟨⟨target, htarget⟩, (hnonempty htarget).1 hne⟩
  · rintro ⟨⟨target, htarget⟩, hlevel⟩
    exact ⟨_, (resolveRelative?_eq_some_iff h).2
      ⟨target, (hnonempty htarget).2 hlevel, rfl, htarget⟩⟩

/-- What a specifier means makes no detours. -/
theorem isNormal_of_resolveRelative? {importer specifier path : String}
    (himporter : Path.IsNormal importer) (h : resolveRelative? importer specifier = some path) :
    Path.IsNormal path := by
  obtain ⟨target, hne, rfl, htarget⟩ := (resolveRelative?_eq_some_iff himporter).1 h
  have hdirectory : ∀ name ∈ (segments importer).dropLast, IsSingleName name :=
    fun name hname => himporter name (List.dropLast_subset _ hname)
  exact Path.isNormal_intercalate hne (isSingleName_of_foldlM_followSpecifier hdirectory
    (fun _ => Text.no_slash_of_mem_segments) htarget)

/-- What a relative specifier means is the path, from any root, of what the specifier is joined to. -/
theorem relativePath_of_resolveRelative? {importer specifier path : String}
    (himporter : Path.IsNormal importer) (hspecifier : Path.isAbsolute specifier = false)
    (h : resolveRelative? importer specifier = some path) (root : OsText) :
    Path.IsNormal path ∧
      Path.relativePath root (Path.join (Path.join root (Path.directory importer)) specifier) =
        some path := by
  refine ⟨isNormal_of_resolveRelative? himporter h, ?_⟩
  obtain ⟨target, hne, rfl, htarget⟩ := (resolveRelative?_eq_some_iff himporter).1 h
  refine Path.relativePath_eq_some_iff.2 ⟨target.map OsText.ofText, by simpa using hne,
    Path.namesBelow?_eq_some_iff.2 ?_, by rw [OsText.map_lossy_ofText]⟩
  rw [Path.ofPath_join_relative hspecifier, Path.ofPath_join_directory himporter,
    OsText.segments_ofText, foldl_step_of_foldlM_followSpecifier htarget]

/-- `../`, some times. -/
def ascent : (levels : Nat) → String
  | 0 => ""
  | levels + 1 => "../" ++ ascent levels

/-- The specifier by which a file `depth` levels below the root imports the file at a path. -/
def specifierTo (depth : Nat) (path : String) : String :=
  (if depth = 0 then "./" else ascent depth) ++ path

theorem segments_ascent (levels : Nat) (path : String) :
    segments (ascent levels ++ path) = List.replicate levels ".." ++ segments path := by
  induction levels with
  | zero => simp [ascent]
  | succ levels ih =>
    have hslash : ascent (levels + 1) ++ path = ".." ++ "/" ++ (ascent levels ++ path) := by
      simp [ascent, ← String.toList_inj]
    rw [hslash, Text.segments_slash, ih, List.replicate_succ]
    rfl

/-- Every path can be named from every file. -/
theorem resolveRelative?_specifierTo {importer path : String} (himporter : Path.IsNormal importer)
    (hpath : Path.IsNormal path) :
    resolveRelative? importer (specifierTo (Path.depth importer) path) = some path := by
  refine (resolveRelative?_eq_some_iff himporter).2
    ⟨segments path, Text.segments_ne_nil path, (Text.intercalate_segments path).symm, ?_⟩
  have hdown : (segments path).foldlM followSpecifier [] = some (segments path) :=
    foldlM_followSpecifier_append hpath
  unfold specifierTo
  split
  · rename_i htop
    have hslash : "./" ++ path = "." ++ "/" ++ path := by simp
    rw [hslash, Text.segments_slash, List.length_eq_zero_iff.1 htop]
    exact hdown
  · rw [segments_ascent, Path.depth, foldlM_followSpecifier_replicate, hdown]

/-- **Relative specifiers are resolved as paths are.**  Below a root, a specifier in a file means
something exactly if it never leads above the root and does not end there, and then it means what
joining it to the directory of the file leads to.  Every path is meant by some specifier. -/
theorem resolveRelative?_agrees {root path : OsText} {importer : String}
    (himporter : Path.relativePath root path = some importer) :
    (∀ specifier : String, specifier.toList.head? = some '.' →
      ((∃ target, resolveRelative? importer specifier = some target) ↔
        StaysBelow (Path.depth importer) (segments specifier) ∧
          Path.depth importer + totalDescent (segments specifier) ≠ 0) ∧
      ∀ target, resolveRelative? importer specifier = some target →
        Path.IsNormal target ∧
          Path.relativePath root
            (Path.join (Path.join root (Path.directory importer)) specifier) = some target) ∧
    ∀ target, Path.IsNormal target →
      resolveRelative? importer (specifierTo (Path.depth importer) target) = some target := by
  have hnormal := Path.isNormal_of_relativePath himporter
  refine ⟨fun specifier hdot => ⟨exists_resolveRelative?_iff hnormal, fun target htarget => ?_⟩,
    fun target htarget => resolveRelative?_specifierTo hnormal htarget⟩
  have hrelative : Path.isAbsolute specifier = false := by
    rw [Bool.eq_false_iff, Ne, Path.isAbsolute_ofText, hdot]
    decide
  exact relativePath_of_resolveRelative? hnormal hrelative htarget root

theorem resolveRelative?_agrees_resolutionSample :
    Path.relativePath "/x/../repo" "/repo/src/a.ts" = some "src/a.ts" ∧
      Path.relativePath "/x/../repo"
        (Path.join (Path.join "/x/../repo" (Path.directory "src/a.ts")) "./..//lib/b") =
          some "lib/b" ∧
      (¬ ∃ target, resolveRelative? "src/a.ts" "../../repo/b" = some target) ∧
      resolveRelative? "src/a.ts" "../lib/b" = some "lib/b" := by
  have himporter : Path.relativePath "/x/../repo" "/repo/src/a.ts" = some "src/a.ts" := by
    decide +kernel
  have hlevels : ¬ StaysBelow (Path.depth "src/a.ts") (segments "../../repo/b") := by
    intro h
    have hout := h ["..", ".."] (by decide +kernel)
    exact absurd hout (by decide +kernel)
  have hlib : resolveRelative? "src/a.ts" "./..//lib/b" = some "lib/b" := by decide +kernel
  have hnormal : Path.IsNormal "lib/b" := (((resolveRelative?_agrees himporter).1 _ rfl).2 _ hlib).1
  refine ⟨himporter, ?_, ?_, ?_⟩
  · exact (((resolveRelative?_agrees himporter).1 _ rfl).2 _ hlib).2
  · exact fun hmeant => hlevels (((resolveRelative?_agrees himporter).1 _ rfl).1.1 hmeant).1
  · exact (resolveRelative?_agrees himporter).2 "lib/b" hnormal

end CodeSearch
