import CodeSearch.Proofs.OsText.Segments
import CodeSearch.Tree.Resolve
import Mathlib.Data.List.TakeDrop

/-!
# Paths below a root

`Path.extend root names` is the path at which a walk from `root` arrives along `names`.  However
`root` is spelled, folding such a path gives the folded root followed by the names
(`ofPath_extend`), so the path can be read back from both texts (`relativePath_extend`), as far as the
names are UTF-8.  The path that names a file from a root makes no detours
(`isNormal_of_relativePath`), and a path without detours is the one that names what it leads to
(`IsNormal.relativePath_join`).
-/

namespace CodeSearch

/-- A text without slashes is no absolute path. -/
theorem Path.isAbsolute_eq_false {name : OsText} (h : slash ∉ name.bytes) :
    Path.isAbsolute name = false := by
  unfold Path.isAbsolute
  cases hlist : name.bytes with
  | nil => rfl
  | cons b rest =>
    have hb : b ≠ slash := by
      rintro rfl
      exact h (by simp [hlist])
    simpa using hb

/-- A text is an absolute path if it starts with a slash. -/
theorem Path.isAbsolute_ofText {text : String} :
    Path.isAbsolute text = true ↔ text.toList.head? = some '/' := by
  have hbytes : (text : OsText).bytes = text.toList.flatMap String.utf8EncodeChar := rfl
  unfold Path.isAbsolute
  rw [hbytes, beq_iff_eq]
  cases text.toList with
  | nil => simp
  | cons c rest =>
    obtain ⟨b, tail, hcode⟩ := List.exists_cons_of_ne_nil (String.utf8EncodeChar_ne_nil (c := c))
    rw [List.flatMap_cons, hcode, List.cons_append, List.head?_cons, List.head?_cons, Option.some_inj,
      Option.some_inj]
    constructor
    · rintro rfl
      exact eq_of_mem_utf8EncodeChar (c := '/') (by decide) (hcode ▸ List.mem_cons_self)
    · rintro rfl
      exact (List.cons.inj (hcode.symm.trans (utf8EncodeChar_ascii (c := '/') (by decide)))).1

/-- A text of the operating system that names one entry of a directory. -/
structure IsEntryName (name : OsText) : Prop where
  ne_empty : name ≠ ""
  ne_dot : name ≠ "."
  ne_dotdot : name ≠ ".."
  no_slash : slash ∉ name.bytes

instance (name : OsText) : Decidable (IsEntryName name) :=
  decidable_of_iff (name ≠ "" ∧ name ≠ "." ∧ name ≠ ".." ∧ slash ∉ name.bytes)
    ⟨fun ⟨a, b, c, d⟩ => ⟨a, b, c, d⟩, fun ⟨a, b, c, d⟩ => ⟨a, b, c, d⟩⟩

/-- A text that names one entry of a directory. -/
structure IsSingleName (name : String) : Prop where
  ne_empty : name ≠ ""
  ne_dot : name ≠ "."
  ne_dotdot : name ≠ ".."
  no_slash : '/' ∉ name.toList

instance (name : String) : Decidable (IsSingleName name) :=
  decidable_of_iff (name ≠ "" ∧ name ≠ "." ∧ name ≠ ".." ∧ '/' ∉ name.toList)
    ⟨fun ⟨a, b, c, d⟩ => ⟨a, b, c, d⟩, fun ⟨a, b, c, d⟩ => ⟨a, b, c, d⟩⟩

theorem IsName.isEntryName {name : OsText} (h : IsName name) : IsEntryName name :=
  ⟨h.ne_empty, h.ne_dot, h.ne_dotdot, h.no_slash⟩

/-- A text names an entry if its bytes do. -/
theorem isSingleName_iff {name : String} : IsSingleName name ↔ IsEntryName name := by
  have hne (other : String) : name ≠ other ↔ (name : OsText) ≠ other := not_congr OsText.ofText_inj.symm
  constructor
  · exact fun ⟨hempty, hdot, hdotdot, hslash⟩ => ⟨(hne _).mp hempty, (hne _).mp hdot, (hne _).mp hdotdot,
      mt OsText.slash_mem_ofText_iff.mp hslash⟩
  · exact fun ⟨hempty, hdot, hdotdot, hslash⟩ => ⟨(hne _).mpr hempty, (hne _).mpr hdot,
      (hne _).mpr hdotdot, mt OsText.slash_mem_ofText_iff.mpr hslash⟩

theorem forall_isEntryName_map {names : List String} (h : ∀ name ∈ names, IsSingleName name) :
    ∀ name ∈ names.map OsText.ofText, IsEntryName name := by
  intro name hname
  obtain ⟨text, htext, rfl⟩ := List.mem_map.mp hname
  exact isSingleName_iff.mp (h text htext)

namespace IsEntryName

variable {name : OsText}

theorem not_isAbsolute (h : IsEntryName name) : Path.isAbsolute name = false :=
  Path.isAbsolute_eq_false h.no_slash

theorem segments_eq (h : IsEntryName name) : name.segments = [name] :=
  OsText.segments_eq_singleton h.no_slash

/-- What can be decoded of a name names an entry too. -/
theorem lossy (h : IsEntryName name) : IsSingleName name.lossy where
  ne_empty heq := h.ne_empty (OsText.eq_ofText_of_lossy (by simp) heq)
  ne_dot heq := h.ne_dot (OsText.eq_ofText_of_lossy (by simp [OsText.IsPlain]) heq)
  ne_dotdot heq := h.ne_dotdot (OsText.eq_ofText_of_lossy (by simp [OsText.IsPlain]) heq)
  no_slash hslash := h.no_slash (OsText.mem_bytes_of_mem_lossy (c := '/') (by decide) hslash)

end IsEntryName

namespace Path

open CodeSearch.Text (segments)

/-! ## Putting a relative path below a path -/

/-- A relative path follows a path that ends with a slash, or a slash after the path, or it stands
alone. -/
theorem join_relative {path : OsText} (h : isAbsolute path = false) (root : OsText) :
    (root = "" ∧ join root path = path) ∨
      ∃ first : OsText, (root = first ++ "/" ∨ root = first ∧ root ≠ "") ∧
        join root path = first ++ "/" ++ path := by
  unfold join
  rw [if_neg (by simp [h])]
  rcases List.eq_nil_or_concat root.bytes with hnil | ⟨init, b, hlist⟩
  · obtain rfl := OsText.bytes_eq_nil_iff.1 hnil
    exact .inl ⟨rfl, rfl⟩
  · have hroot : root = OsText.mk init ++ OsText.mk [b] := by
      rw [← OsText.bytes_inj, hlist]
      exact List.concat_eq_append
    have hne : root ≠ "" := by
      rw [Ne, ← OsText.bytes_eq_nil_iff, hlist]
      simp
    refine .inr ?_
    by_cases hb : b = slash
    · exact ⟨⟨init⟩, .inl (by rw [hroot, hb]; rfl), by simp [hb, hroot]; rfl⟩
    · exact ⟨root, .inr ⟨rfl, hne⟩, by simp [hlist, hb]⟩

/-- Whether a path is absolute shows before its end. -/
theorem isAbsolute_append {first : OsText} (h : first ≠ "") (rest : OsText) :
    isAbsolute (first ++ rest) = isAbsolute first := by
  have hne : first.bytes ≠ [] := mt OsText.bytes_eq_nil_iff.1 h
  unfold isAbsolute
  rw [OsText.bytes_append]
  cases hlist : first.bytes with
  | nil => exact absurd hlist hne
  | cons b text => rfl

theorem isAbsolute_ofText_append {first : String} (h : first ≠ "") (rest : String) :
    isAbsolute (OsText.ofText (first ++ rest)) = isAbsolute first := by
  rw [OsText.ofText_append, isAbsolute_append (mt OsText.ofText_inj.1 h)]

/-- What follows a slash is folded into what stands before it. -/
theorem ofPath_slash (first rest : OsText) :
    Folded.ofPath (first ++ "/" ++ rest) =
      rest.segments.foldl Folded.step (Folded.ofPath (first ++ "/")) := by
  have hslash := OsText.append_slash_ne_empty first
  unfold Folded.ofPath
  -- the segment after the last slash is empty, and folding passes over it
  rw [isAbsolute_append hslash, OsText.segments_slash, OsText.segments_append_slash, List.foldl_append,
    List.foldl_append]
  rfl

/-- A slash at the end changes nothing. -/
theorem ofPath_append_slash {first : OsText} (h : first ≠ "") :
    Folded.ofPath (first ++ "/") = Folded.ofPath first := by
  unfold Folded.ofPath
  rw [isAbsolute_append h, OsText.segments_append_slash, List.foldl_append]
  rfl

theorem Folded.step_name {name : OsText} (h : IsEntryName name) (f : Folded) :
    f.step name = { f with names := f.names ++ [name] } := by
  simp [Folded.step, h.ne_empty, h.ne_dot, h.ne_dotdot]

theorem Folded.foldl_step_names {names : List OsText} (h : ∀ name ∈ names, IsEntryName name)
    (f : Folded) : names.foldl step f = { f with names := f.names ++ names } := by
  induction names generalizing f with
  | nil => simp
  | cons name rest ih =>
    rw [List.foldl_cons, step_name (h name (by simp)),
      ih fun other hother => h other (by simp [hother])]
    simp

/-- Only `..` leads out of what has been folded. -/
theorem Folded.exists_foldl_step_eq {segments : List OsText} (h : (".." : OsText) ∉ segments) (f : Folded) :
    ∃ rest, segments.foldl step f = { f with names := f.names ++ rest } := by
  induction segments generalizing f with
  | nil => exact ⟨[], by simp⟩
  | cons segment segments ih =>
    rw [List.mem_cons, not_or] at h
    obtain ⟨rest, hrest⟩ := ih h.2 (f.step segment)
    rw [List.foldl_cons, hrest]
    unfold step
    split
    · exact ⟨rest, rfl⟩
    · rw [if_neg (Ne.symm h.1)]
      exact ⟨segment :: rest, by simp⟩

/-- Joining a relative path folds its segments into what the base folds to. -/
theorem ofPath_join_relative {path : OsText} (h : isAbsolute path = false) (root : OsText) :
    Folded.ofPath (join root path) = path.segments.foldl Folded.step (Folded.ofPath root) := by
  rcases join_relative h root with ⟨rfl, heq⟩ | ⟨first, rfl | ⟨rfl, hne⟩, heq⟩
  · rw [heq, Folded.ofPath, h]
    rfl
  · rw [heq, ofPath_slash]
  · rw [heq, ofPath_slash, ofPath_append_slash hne]

theorem ofPath_join {name : OsText} (h : IsName name) (root : OsText) :
    Folded.ofPath (join root name) =
      { Folded.ofPath root with names := (Folded.ofPath root).names ++ [name] } := by
  rw [ofPath_join_relative h.isEntryName.not_isAbsolute, h.isEntryName.segments_eq, ← Folded.step_name h.isEntryName]
  rfl

/-- Joining puts something after the base. -/
theorem exists_join_eq_append {path : OsText} (h : isAbsolute path = false) (root : OsText) :
    ∃ rest, join root path = root ++ rest := by
  rcases join_relative h root with ⟨rfl, heq⟩ | ⟨first, rfl | ⟨rfl, -⟩, heq⟩
  · exact ⟨path, by simp [heq]⟩
  · exact ⟨path, heq⟩
  · exact ⟨"/" ++ path, by rw [heq, OsText.append_assoc]⟩

/-- What follows a path that is not empty is joined together with it. -/
theorem join_append {path : OsText} (h : path ≠ "") (base rest : OsText) :
    join base (path ++ rest) = join base path ++ rest := by
  unfold join
  rw [isAbsolute_append h]
  split
  · rfl
  · split
    · rw [OsText.append_assoc]
    · rw [OsText.append_assoc, OsText.append_assoc, OsText.append_assoc]

/-- The segments of a path below a root are those of the root, but for an empty one at the end, and
then its own. -/
theorem segments_join {root path : OsText} (hne : root ≠ "") (h : isAbsolute path = false) :
    ∃ first, (root.segments = first ∨ root.segments = first ++ [("" : OsText)]) ∧
      (join root path).segments = first ++ path.segments := by
  rcases join_relative h root with ⟨hempty, -⟩ | ⟨first, rfl | ⟨rfl, -⟩, heq⟩
  · exact absurd hempty hne
  · exact ⟨first.segments, .inr (OsText.segments_append_slash first), by rw [heq, OsText.segments_slash]⟩
  · exact ⟨root.segments, .inl rfl, by rw [heq, OsText.segments_slash]⟩

/-- A relative path below a root is absolute if the root is. -/
theorem isAbsolute_join_relative {root path : OsText} (hne : root ≠ "") (h : isAbsolute path = false) :
    isAbsolute (join root path) = isAbsolute root := by
  obtain ⟨rest, hjoin⟩ := exists_join_eq_append h root
  rw [hjoin, isAbsolute_append hne]

theorem join_absolute {path : OsText} (h : isAbsolute path = true) (base : OsText) :
    join base path = path :=
  if_pos h

/-- What is joined to an absolute path is absolute. -/
theorem isAbsolute_join {base : OsText} (h : isAbsolute base = true) (path : OsText) :
    isAbsolute (join base path) = true := by
  have hbase : base ≠ "" := by
    rintro rfl
    cases h
  cases hpath : isAbsolute path with
  | true => rw [join_absolute hpath, hpath]
  | false =>
    obtain ⟨rest, hjoin⟩ := exists_join_eq_append hpath base
    rw [hjoin, isAbsolute_append hbase, h]

/-! ## Putting names below a path -/

/-- The path of what some names lead to from `root`. -/
def extend (root : OsText) (names : List OsText) : OsText := names.foldl join root

@[simp] theorem extend_nil (root : OsText) : extend root [] = root := rfl

@[simp] theorem extend_cons (root name : OsText) (rest : List OsText) :
    extend root (name :: rest) = extend (join root name) rest := rfl

theorem extend_append (root : OsText) (first last : List OsText) :
    extend root (first ++ last) = extend (extend root first) last := List.foldl_append

/-- Names below a root come after the root's own ones. -/
theorem ofPath_extend {names : List OsText} (h : ∀ name ∈ names, IsName name) (root : OsText) :
    Folded.ofPath (extend root names) =
      { Folded.ofPath root with names := (Folded.ofPath root).names ++ names } := by
  induction names generalizing root with
  | nil => simp
  | cons name rest ih =>
    have hname := h name (by simp)
    have hrest : ∀ other ∈ rest, IsName other := fun other hother => h other (by simp [hother])
    rw [extend_cons, ih hrest, ofPath_join hname]
    simp

/-- What lies at or below a folded path has its names, and then those that lead there. -/
theorem Folded.below?_eq_some_iff {root f : Folded} {names : List OsText} :
    root.below? f = some names ↔ f = { root with names := root.names ++ names } := by
  obtain ⟨absolute, ups, first⟩ := root
  obtain ⟨absolute', ups', all⟩ := f
  simp only [below?, mk.injEq]
  constructor
  · intro h
    split at h
    · rename_i hbelow
      obtain ⟨rfl, rfl, rest, rfl⟩ := hbelow
      simpa using h
    · cases h
  · rintro ⟨rfl, rfl, rfl⟩
    simp

theorem namesBelow?_eq_some_iff {root path : OsText} {names : List OsText} :
    namesBelow? root path = some names ↔
      Folded.ofPath path = { Folded.ofPath root with names := (Folded.ofPath root).names ++ names } :=
  Folded.below?_eq_some_iff

theorem relativePath_eq_some_iff {root path : OsText} {relative : String} :
    relativePath root path = some relative ↔
      ∃ names, names ≠ [] ∧ namesBelow? root path = some names ∧
        relative = "/".intercalate (names.map OsText.lossy) := by
  unfold relativePath segmentsBelow?
  cases namesBelow? root path with
  | none => simp
  | some names =>
    cases names with
    | nil => simp
    | cons name rest => simp [eq_comm]

/-- The names along which a path was reached can be read back from it and the root. -/
theorem relativePath_extend {names : List OsText} (hne : names ≠ [])
    (h : ∀ name ∈ names, IsName name) (root : OsText) :
    relativePath root (extend root names) = some ("/".intercalate (names.map OsText.lossy)) :=
  relativePath_eq_some_iff.2 ⟨names, hne, namesBelow?_eq_some_iff.2 (ofPath_extend h root), rfl⟩

/-- Joined names are no absolute path. -/
theorem isAbsolute_joined {names : List OsText} (hne : names ≠ [])
    (h : ∀ name ∈ names, name ≠ "" ∧ slash ∉ name.bytes) :
    isAbsolute (OsText.joined names) = false ∧ OsText.joined names ≠ "" := by
  cases names with
  | nil => exact absurd rfl hne
  | cons name rest =>
    obtain ⟨hname, hslash⟩ := h name (by simp)
    have habsolute := isAbsolute_eq_false hslash
    obtain ⟨tail, htail⟩ : ∃ tail, OsText.joined (name :: rest) = name ++ tail := by
      by_cases hrest : rest = []
      · exact ⟨"", by simp [hrest]⟩
      · exact ⟨"/" ++ OsText.joined rest, by
          rw [OsText.joined_cons_of_ne_nil hrest, OsText.append_assoc]⟩
    rw [htail]
    exact ⟨by rw [isAbsolute_append hname, habsolute], OsText.append_ne_empty hname tail⟩

/-- What is put below a path that ends with a name follows a slash. -/
theorem join_of_suffix {base name path : OsText} (hne : name ≠ "") (hfree : slash ∉ name.bytes)
    (hend : name.bytes <:+ base.bytes) (h : isAbsolute path = false) :
    join base path = base ++ "/" ++ path := by
  obtain ⟨first, hbase⟩ := hend
  have hlast : ∀ b ∈ name.bytes.getLast?, b ≠ slash := by
    rintro b hb rfl
    exact hfree (List.mem_of_getLast? hb)
  have hbytes : name.bytes ≠ [] := mt OsText.bytes_eq_nil_iff.1 hne
  have hopen : base.bytes.getLast?.all (· == slash) = false := by
    rw [← hbase, List.getLast?_append, List.getLast?_eq_some_getLast hbytes, Option.some_or]
    simpa using hlast _ (List.getLast?_eq_some_getLast hbytes)
  rw [join.eq_def, if_neg (by simp [h]), if_neg (by simp [hopen])]

/-- What is put below a name follows a slash. -/
theorem join_join_name {name path : OsText} (hname : IsName name) (h : isAbsolute path = false)
    (root : OsText) : join (join root name) path = join root name ++ "/" ++ path := by
  have hend : name.bytes <:+ (join root name).bytes := by
    rcases join_relative hname.isEntryName.not_isAbsolute root with ⟨-, heq⟩ | ⟨first, -, heq⟩
    · exact ⟨[], by simp [heq]⟩
    · rw [heq, OsText.bytes_append]
      exact List.suffix_append _ _
  exact join_of_suffix hname.ne_empty hname.no_slash hend h

/-- Names can be put below a root one after the other or joined. -/
theorem join_joined {names : List OsText} (hne : names ≠ [])
    (h : ∀ name ∈ names, IsName name) (root : OsText) :
    join root (OsText.joined names) = extend root names := by
  induction names generalizing root with
  | nil => exact absurd rfl hne
  | cons name rest ih =>
    obtain ⟨hname, hrest⟩ := List.forall_mem_cons.1 h
    by_cases hlast : rest = []
    · simp [hlast]
    · have hrelative : isAbsolute (OsText.joined rest) = false :=
        (isAbsolute_joined hlast fun other hother =>
          ⟨(hrest other hother).ne_empty, (hrest other hother).no_slash⟩).1
      rw [extend_cons, ← ih hlast hrest, join_join_name hname hrelative,
        OsText.joined_cons_of_ne_nil hlast, OsText.append_assoc,
        join_append hname.ne_empty, OsText.append_assoc]

/-! ## Slashes after a path -/

/-- A path with some slashes after it. -/
def slashed (path : OsText) : Nat → OsText
  | 0 => path
  | n + 1 => slashed path n ++ "/"

theorem slashed_ne_empty {path : OsText} (h : path ≠ "") (n : Nat) : slashed path n ≠ "" := by
  cases n with
  | zero => exact h
  | succ n => exact OsText.append_slash_ne_empty _

theorem isAbsolute_slashed {path : OsText} (h : path ≠ "") (n : Nat) :
    isAbsolute (slashed path n) = isAbsolute path := by
  induction n with
  | zero => rfl
  | succ n ih => rw [slashed, isAbsolute_append (slashed_ne_empty h n), ih]

theorem size_slashed (path : OsText) (n : Nat) : (slashed path n).size = path.size + n := by
  induction n with
  | zero => rfl
  | succ n ih =>
    rw [slashed, OsText.size_append, ih]
    rfl

theorem mem_bytes_slashed {path : OsText} {b : UInt8} {n : Nat}
    (h : b ∈ (slashed path n).bytes) : b ∈ path.bytes ∨ b = slash := by
  induction n with
  | zero => exact .inl h
  | succ n ih =>
    rw [slashed, OsText.bytes_append] at h
    rcases List.mem_append.1 h with h | h
    · exact ih h
    · exact .inr (List.mem_singleton.1 h)

theorem segments_slashed (path : OsText) (n : Nat) :
    (slashed path n).segments = path.segments ++ List.replicate n ("" : OsText) := by
  induction n with
  | zero => exact (List.append_nil _).symm
  | succ n ih =>
    rw [slashed, OsText.segments_append_slash, ih, List.replicate_succ', List.append_assoc]

/-- A relative path goes directly after slashes. -/
theorem join_slashed {path : OsText} (h : isAbsolute path = false) (base : OsText) {n : Nat}
    (hn : n ≠ 0) : join (slashed base n) path = slashed base n ++ path := by
  obtain ⟨n, rfl⟩ := Nat.exists_eq_succ_of_ne_zero hn
  unfold join
  rw [h]
  simp [slashed]

/-! ## Normal paths -/

/-- A path from a root makes no detours: each of its segments names an entry. -/
def IsNormal (path : String) : Prop := ∀ segment ∈ segments path, IsSingleName segment

/-- The directory of a file, as a path from the root; the empty text for the root itself. -/
def directory (path : String) : String := "/".intercalate (segments path).dropLast

/-- The number of directories between the root and a file. -/
def depth (path : String) : Nat := (segments path).dropLast.length

theorem segments_intercalate_names {names : List String} (hne : names ≠ [])
    (h : ∀ name ∈ names, IsSingleName name) : segments ("/".intercalate names) = names :=
  Text.segments_intercalate hne fun name hname => (h name hname).no_slash

theorem isNormal_intercalate {names : List String} (hne : names ≠ [])
    (h : ∀ name ∈ names, IsSingleName name) : IsNormal ("/".intercalate names) := by
  intro segment hsegment
  rw [segments_intercalate_names hne h] at hsegment
  exact h segment hsegment

theorem isNormal_single {name : String} (h : IsSingleName name) : IsNormal name := by
  rw [IsNormal, Text.segments_eq_singleton h.no_slash]
  simpa using h

namespace IsNormal

variable {path rest : String}

/-- The names of a path without detours, as bytes. -/
theorem isEntryName (h : IsNormal path) : ∀ segment ∈ (path : OsText).segments, IsEntryName segment := by
  rw [OsText.segments_ofText]
  exact forall_isEntryName_map h

theorem not_isAbsolute_and_ne_empty (h : IsNormal path) :
    isAbsolute path = false ∧ (path : OsText) ≠ "" := by
  rw [← OsText.joined_segments path]
  exact isAbsolute_joined (OsText.segments_ne_nil path) fun name hname =>
    ⟨(h.isEntryName name hname).ne_empty, (h.isEntryName name hname).no_slash⟩

theorem not_isAbsolute (h : IsNormal path) : isAbsolute path = false :=
  h.not_isAbsolute_and_ne_empty.1

theorem ne_empty (h : IsNormal path) : path ≠ "" :=
  fun heq => h.not_isAbsolute_and_ne_empty.2 (congrArg OsText.ofText heq)

/-- A path without detours folds to its segments, below whatever it is put. -/
theorem ofPath_join (h : IsNormal path) (root : OsText) :
    Folded.ofPath (join root path) =
      { Folded.ofPath root with
        names := (Folded.ofPath root).names ++ (segments path).map OsText.ofText } := by
  rw [ofPath_join_relative h.not_isAbsolute, Folded.foldl_step_names h.isEntryName,
    OsText.segments_ofText]

/-- A path without detours is the path from a root of what it leads to. -/
theorem relativePath_join (h : IsNormal path) (root : OsText) :
    relativePath root (join root path) = some path := by
  refine relativePath_eq_some_iff.2 ⟨(segments path).map OsText.ofText, ?_,
    namesBelow?_eq_some_iff.2 (h.ofPath_join root), ?_⟩
  · simpa using Text.segments_ne_nil path
  · rw [OsText.map_lossy_ofText, Text.intercalate_segments]

theorem slash (h : IsNormal path) (hrest : IsNormal rest) : IsNormal (path ++ "/" ++ rest) := by
  intro segment hsegment
  rw [Text.segments_slash, List.mem_append] at hsegment
  exact hsegment.elim (h segment) (hrest segment)

end IsNormal

theorem directory_slash (path : String) {name : String} (h : '/' ∉ name.toList) :
    directory (path ++ "/" ++ name) = path := by
  rw [directory, Text.segments_slash, Text.segments_eq_singleton h, List.dropLast_concat,
    Text.intercalate_segments]

/-- Following a segment leaves names of entries. -/
theorem Folded.step_keeps_names {f : Folded} {segment : OsText}
    (h : ∀ name ∈ f.names, IsEntryName name) (hsegment : CodeSearch.slash ∉ segment.bytes) :
    ∀ name ∈ (f.step segment).names, IsEntryName name := by
  unfold step
  split
  · exact h
  · rename_i hplain
    split
    · unfold up
      split
      · split <;> exact h
      · exact fun name hname => h name (List.dropLast_subset _ hname)
    · rename_i hdown
      rw [not_or] at hplain
      intro name hname
      rcases List.mem_append.1 hname with hname | hname
      · exact h name hname
      · rw [List.mem_singleton.1 hname]
        exact ⟨hplain.1, hplain.2, hdown, hsegment⟩

theorem Folded.foldl_step_keeps_names {way : List OsText} {f : Folded}
    (h : ∀ name ∈ f.names, IsEntryName name)
    (hway : ∀ segment ∈ way, CodeSearch.slash ∉ segment.bytes) :
    ∀ name ∈ (way.foldl step f).names, IsEntryName name := by
  induction way generalizing f with
  | nil => exact h
  | cons segment rest ih =>
    apply ih _ fun other hother => hway other (by simp [hother])
    exact Folded.step_keeps_names h (hway segment (by simp))

/-- What is left of a path once it is folded are names of entries. -/
theorem Folded.isEntryName_of_mem_ofPath {path name : OsText}
    (h : name ∈ (Folded.ofPath path).names) : IsEntryName name :=
  Folded.foldl_step_keeps_names (by simp) (fun _ => OsText.no_slash_of_mem_segments) name h

/-- What leads from a root to a path are names of entries. -/
theorem isEntryName_of_namesBelow? {root path : OsText} {names : List OsText}
    (h : namesBelow? root path = some names) : ∀ name ∈ names, IsEntryName name := by
  intro name hname
  have hfolded := namesBelow?_eq_some_iff.1 h
  apply Folded.isEntryName_of_mem_ofPath
  rw [hfolded]
  exact List.mem_append_right _ hname

theorem forall_isSingleName_map {names : List OsText} (h : ∀ name ∈ names, IsEntryName name) :
    ∀ name ∈ names.map OsText.lossy, IsSingleName name := by
  intro name hname
  obtain ⟨bytes, hbytes, rfl⟩ := List.mem_map.mp hname
  exact (h bytes hbytes).lossy

/-- What leads from a root to a path are single names, as texts too. -/
theorem isSingleName_of_segmentsBelow? {root path : OsText} {names : List String}
    (h : segmentsBelow? root path = some names) : ∀ name ∈ names, IsSingleName name := by
  obtain ⟨names, hnames, rfl⟩ := Option.map_eq_some_iff.1 h
  exact forall_isSingleName_map (isEntryName_of_namesBelow? hnames)

/-- The path of a file from a root makes no detours. -/
theorem isNormal_of_relativePath {root path : OsText} {relative : String}
    (h : relativePath root path = some relative) : IsNormal relative := by
  obtain ⟨names, hne, hbelow, rfl⟩ := relativePath_eq_some_iff.1 h
  exact isNormal_intercalate (by simpa using hne)
    (forall_isSingleName_map (isEntryName_of_namesBelow? hbelow))

/-- The directory of a file below a root folds to the root and the names on the way. -/
theorem ofPath_join_directory {importer : String} (h : IsNormal importer) (root : OsText) :
    Folded.ofPath (join root (directory importer)) =
      { Folded.ofPath root with
        names := (Folded.ofPath root).names ++ (segments importer).dropLast.map OsText.ofText } := by
  have hnames : ∀ name ∈ (segments importer).dropLast, IsSingleName name :=
    fun name hname => h name (List.dropLast_subset _ hname)
  by_cases htop : (segments importer).dropLast = []
  · rw [directory, htop, List.map_nil, List.append_nil, ofPath_join_relative (by decide)]
    rfl
  · rw [directory, (isNormal_intercalate htop hnames).ofPath_join,
      segments_intercalate_names htop hnames]

/-! ## Names of files -/

/-- A name is cut at its last dot, which is not its first byte. -/
theorem splitExtension?_eq_some_iff {name stem extension : OsText} (h : name ≠ "..") :
    splitExtension? name = some (stem, extension) ↔
      name = stem ++ "." ++ extension ∧ stem ≠ "" ∧ dot ∉ extension.bytes := by
  unfold splitExtension?
  rw [if_neg h]
  constructor
  · intro hsplit
    split at hsplit
    · cases hsplit
    · cases hsplit
    · rename_i last b front hfront hspan
      obtain ⟨rfl, rfl⟩ := Prod.mk.inj (Option.some.inj hsplit)
      obtain ⟨hlast, hlist⟩ := Text.eq_of_span_ne hspan
      refine ⟨?_, fun hempty => hfront ?_, by simpa using hlast⟩
      · rw [← OsText.bytes_inj, ← List.reverse_inj, hlist]
        simp
        rfl
      · simpa [OsText.bytes_eq_nil_iff] using OsText.bytes_eq_nil_iff.mpr hempty
  · rintro ⟨rfl, hstem, hextension⟩
    have hlist : (stem ++ "." ++ extension).bytes.reverse =
        extension.bytes.reverse ++ dot :: stem.bytes.reverse := by
      simp
      rfl
    rw [hlist, Text.span_ne_append (by simpa using hextension)]
    cases hfront : stem.bytes.reverse with
    | nil => exact absurd (OsText.bytes_eq_nil_iff.mp (List.reverse_eq_nil_iff.mp hfront)) hstem
    | cons b front => simp [← hfront]

theorem IsNormal.fileName?_eq {path : String} (h : IsNormal path) :
    fileName? path = (segments path).getLast?.map OsText.ofText := by
  obtain ⟨before, last, hsegments⟩ :=
    (List.eq_nil_or_concat (segments path)).resolve_left (Text.segments_ne_nil path)
  have hlast : IsEntryName last := isSingleName_iff.1 (h last (by simp [hsegments]))
  unfold fileName?
  rw [OsText.segments_ofText, hsegments]
  simp [hlast.ne_empty, hlast.ne_dot, hlast.ne_dotdot]

/-- The last name of a path has an extension, which may be empty: there is a dot in the name after its
first character. -/
def HasExtension (path : String) : Prop :=
  ∃ stem extension, (segments path).getLast? = some (stem ++ "." ++ extension) ∧ stem ≠ "" ∧
    '.' ∉ extension.toList

/-- The bytes of a name are cut where the name is. -/
theorem exists_splitExtension?_iff {name : String} (h : name ≠ "..") :
    (∃ stem extension, splitExtension? name = some (stem, extension)) ↔
      ∃ stem extension, name = stem ++ "." ++ extension ∧ stem ≠ "" ∧ '.' ∉ extension.toList := by
  have hdots : (name : OsText) ≠ ".." := fun heq => h (OsText.ofText_inj.1 heq)
  have hdot {text : String} : dot ∈ (text : OsText).bytes ↔ '.' ∈ text.toList :=
    mem_utf8Bytes_iff (c := '.') (by decide)
  simp only [splitExtension?_eq_some_iff hdots]
  constructor
  · rintro ⟨stem, extension, hname, hstem, hextension⟩
    have hbytes : utf8Bytes name = stem.bytes ++ .ofNat '.'.toNat :: extension.bytes := by
      rw [show utf8Bytes name = (name : OsText).bytes from rfl, hname]
      simp
      rfl
    obtain ⟨first, last, rfl, hfirst, hlast⟩ := exists_cut_of_utf8Bytes (by decide) hbytes
    refine ⟨first, last, rfl, ?_, ?_⟩
    · rintro rfl
      exact hstem (OsText.bytes_inj.1 hfirst.symm)
    · rw [← hdot, show (last : OsText).bytes = extension.bytes from hlast]
      exact hextension
  · rintro ⟨stem, extension, rfl, hstem, hextension⟩
    refine ⟨stem, extension, ?_, fun heq => hstem (OsText.ofText_inj.1 heq), mt hdot.1 hextension⟩
    rw [OsText.ofText_append, OsText.ofText_append]

theorem IsNormal.hasExtension_iff {path : String} (h : IsNormal path) :
    hasExtension path = true ↔ HasExtension path := by
  unfold hasExtension HasExtension
  rw [h.fileName?_eq]
  cases hlast : (segments path).getLast? with
  | none => simp
  | some name =>
    have hname := (h name (List.mem_of_getLast? hlast)).ne_dotdot
    rw [Option.map_some, Option.bind_some, Option.isSome_iff_exists, Prod.exists,
      exists_splitExtension?_iff hname]
    simp only [Option.some.injEq]

/-- A file name without its extension has no slash. -/
theorem no_slash_of_fileStem? {path base : OsText} (h : fileStem? path = some base) :
    CodeSearch.slash ∉ base.bytes := by
  obtain ⟨name, hname, rfl⟩ := Option.map_eq_some_iff.1 h
  obtain ⟨hfound, hup⟩ := Option.filter_eq_some_iff.1 hname
  have hfree : CodeSearch.slash ∉ name.bytes :=
    OsText.no_slash_of_mem_segments (List.mem_reverse.1 (List.mem_of_find?_eq_some hfound))
  cases hsplit : splitExtension? name with
  | none => exact hfree
  | some parts =>
    have hdotdot : name ≠ ".." := by simpa using hup
    obtain ⟨hparts, -, -⟩ := (splitExtension?_eq_some_iff hdotdot).1 hsplit
    intro hslash
    refine hfree ?_
    rw [hparts, OsText.bytes_append, OsText.bytes_append]
    exact List.mem_append_left _ (List.mem_append_left _ hslash)

end Path

end CodeSearch
