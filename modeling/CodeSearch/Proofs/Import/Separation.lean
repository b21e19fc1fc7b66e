import CodeSearch.Proofs.Import.Grammar

/-!
# Statements that end with a line

A semicolon at the end of a line keeps what stands on both sides apart, whatever that is: no import and
no class declaration reaches over it, and none looks at what lies beyond (`IsLocal`).  So a text with
such a line end has the imports and classes of what stands in front of it, and then those of what
stands behind it (`occurrences_separated`).
-/

namespace CodeSearch.Import

open Unicode (isWordChar isWhiteSpace)

/-- The end of a statement and of its line. -/
def separator : List Char := [';', '\n']

/-- A recogniser sees no further than a separator: in front of one it accepts what it accepts there
without the rest, it accepts nothing within one, and behind one it sees the start of a text. -/
structure IsLocal {α : Type} (recognise? : Option Char → List Char → Option (α × Nat)) : Prop where
  empty : ∀ before, recognise? before [] = none
  in_front : ∀ before text rest,
    recognise? before (text ++ separator ++ rest) = recognise? before text
  within : ∀ rest, recognise? (some ';') ('\n' :: rest) = none
  behind : ∀ text, recognise? (some '\n') text = recognise? none text
  length_le : ∀ before text found length,
    recognise? before text = some (found, length) → length ≤ text.length

namespace IsLocal

variable {α : Type} {recognise? : Option Char → List Char → Option (α × Nat)}

/-- What occurs behind a separator is what occurs in a text of its own. -/
theorem occurrences_separator (h : IsLocal recognise?) (before : Option Char) (rest : List Char) :
    occurrences recognise? 0 before (separator ++ rest) = occurrences recognise? 0 none rest := by
  have hstart : recognise? before (separator ++ rest) = none :=
    (h.in_front before [] rest).trans (h.empty before)
  have hbehind : occurrences recognise? 0 (some '\n') rest = occurrences recognise? 0 none rest := by
    cases rest with
    | nil => rfl
    | cons c rest => rw [occurrences, occurrences, h.behind]
  rw [separator, List.cons_append, List.cons_append, List.nil_append] at hstart ⊢
  rw [occurrences, hstart]
  dsimp only
  rw [occurrences, h.within]
  exact hbehind

/-- What occurs in a text with a separator occurs in front of it or behind it. -/
theorem occurrences_separated (h : IsLocal recognise?) (first rest : List Char) {skip : Nat}
    (hskip : skip ≤ first.length) (before : Option Char) :
    occurrences recognise? skip before (first ++ separator ++ rest) =
      occurrences recognise? skip before first ++ occurrences recognise? 0 none rest := by
  induction first generalizing skip before with
  | nil =>
    obtain rfl : skip = 0 := Nat.le_zero.1 hskip
    exact h.occurrences_separator before rest
  | cons c first ih =>
    have hhere := h.in_front before (c :: first) rest
    rw [List.cons_append, List.cons_append] at hhere ⊢
    cases skip with
    | succ skip => exact ih (Nat.le_of_succ_le_succ hskip) (some c)
    | zero =>
      rw [occurrences, occurrences, hhere]
      cases hfound : recognise? before (c :: first) with
      | none => exact ih (Nat.zero_le _) (some c)
      | some result =>
        -- an occurrence ends in front of the separator
        have hlength := h.length_le _ _ _ _ hfound
        rw [List.length_cons] at hlength
        exact congrArg (result.1 :: ·) (ih (by omega) (some c))

end IsLocal

/-! ## Imports -/

section Statements

variable {IsClause : List Char → Prop}

theorem ne_of_isQuote {c : Char} (h : isQuote c = true) : c ≠ ';' ∧ c ≠ '\n' := by
  constructor <;> rintro rfl <;> exact absurd h (by decide)

/-- Within an import, the line goes on behind a semicolon: it stands between the quotes. -/
theorem Statement.HasForm.exists_ne_newline {s : Statement} (hs : s.HasForm IsClause)
    {first rest : List Char} (h : s.text = first ++ ';' :: rest) :
    ∃ c tail, rest = c :: tail ∧ c ≠ '\n' := by
  have htext : s.text = (keyword ++ s.clause ++ [s.opening]) ++ (s.specifier ++ [s.closing]) := by
    simp [Statement.text, Statement.tail]
  have hfront : ';' ∉ keyword ++ s.clause ++ [s.opening] := by
    simp only [List.mem_append, List.mem_singleton, not_or]
    exact ⟨⟨by decide, fun hmem => (hs.clause_free _ hmem).1 rfl⟩,
      (ne_of_isQuote hs.opening_isQuote).1.symm⟩
  have hbehind : ∃ between, s.specifier ++ [s.closing] = between ++ ';' :: rest := by
    rw [htext] at h
    rcases List.append_eq_append_iff.1 h with ⟨between, -, hquoted⟩ | ⟨between, hsplit, hquoted⟩
    · exact ⟨between, hquoted⟩
    · rcases List.cons_eq_append_iff.1 hquoted with ⟨rfl, hquoted⟩ | ⟨tail, rfl, -⟩
      · exact ⟨[], hquoted.symm⟩
      · exact absurd (by simp [hsplit]) hfront
  obtain ⟨between, hquoted⟩ := hbehind
  have hline : ∀ c ∈ rest, c ≠ '\n' := by
    intro c hc
    have hmem : c ∈ s.specifier ++ [s.closing] := by simp [hquoted, hc]
    rcases List.mem_append.1 hmem with hmem | hmem
    · exact (hs.specifier_free c hmem).2.2
    · exact List.mem_singleton.1 hmem ▸ (ne_of_isQuote hs.closing_isQuote).2
  cases rest with
  | nil =>
    obtain ⟨-, hclosing⟩ := List.append_inj' hquoted rfl
    exact absurd (List.cons.inj hclosing).1 (ne_of_isQuote hs.closing_isQuote).1
  | cons c tail => exact ⟨c, tail, rfl, hline c (by simp)⟩

/-- An import that starts in front of a separator ends there. -/
theorem Statement.HasForm.prefix_separated_iff {s : Statement} (hs : s.HasForm IsClause)
    {text rest : List Char} : s.text <+: text ++ separator ++ rest ↔ s.text <+: text := by
  constructor
  · intro h
    have htext : text <+: text ++ separator ++ rest :=
      (List.prefix_append _ _).trans (List.prefix_append _ _)
    rcases List.prefix_or_prefix_of_prefix h htext with hshort | ⟨tail, htail⟩
    · exact hshort
    · rw [← htail, List.append_assoc, List.prefix_append_right_inj] at h
      rcases List.prefix_cons_iff.1 h with rfl | ⟨behind, rfl, hbehind⟩
      · exact ⟨[], by simp [← htail]⟩
      · obtain ⟨c, more, rfl, hc⟩ := hs.exists_ne_newline htail.symm
        exact absurd (List.cons_prefix_cons.1 hbehind).1 hc
  · intro h
    exact (h.trans (List.prefix_append _ _)).trans (List.prefix_append _ _)

theorem isLocal_statement? {isClause : List Char → Bool} (hdecides : Decides isClause IsClause) :
    IsLocal (statement? isClause) where
  empty _ := rfl
  in_front before text rest := by
    have hbefore : before = before.toList.getLast? := by cases before <;> rfl
    rw [hbefore]
    refine Option.ext fun ⟨specifier, length⟩ => ?_
    rw [statement?_eq_some_iff hdecides, statement?_eq_some_iff hdecides]
    constructor
    · rintro ⟨after, s, htext, hs, hparts⟩
      obtain ⟨after, rfl⟩ := hs.prefix_separated_iff.1 ⟨after, htext.symm⟩
      exact ⟨after, s, rfl, hs, hparts⟩
    · rintro ⟨after, s, rfl, hs, hparts⟩
      exact ⟨after ++ separator ++ rest, s, by simp, hs, hparts⟩
  within rest := rfl
  behind text := rfl
  length_le _ _ _ _ h := (size_of_statement? hdecides h).2

end Statements

/-! ## Class declarations -/

/-- A reader takes a part off the start of a text, and semicolons end that part. -/
structure TakesPart (read? : List Char → Option (List Char)) : Prop where
  length_le : ∀ {text found}, read? text = some found → found.length ≤ text.length
  in_front : ∀ text rest, read? (text ++ ';' :: rest) = read? text

theorem takeWhile_in_front {p : Char → Bool} (hp : p ';' = false) (text rest : List Char) :
    (text ++ ';' :: rest).takeWhile p = text.takeWhile p := by
  induction text with
  | nil => simp [hp]
  | cons c text ih => simp only [List.cons_append, List.takeWhile_cons, ih]

theorem takesPart_word? {word : List Char} (hword : ';' ∉ word) : TakesPart (word? word) where
  length_le {text found} h := by
    unfold word? at h
    split at h
    · rename_i hprefix
      obtain rfl := Option.some.inj h
      exact (List.isPrefixOf_iff_prefix.1 hprefix).length_le
    · cases h
  in_front text rest := by
    have hprefix : word <+: text ++ ';' :: rest ↔ word <+: text := by
      refine ⟨fun h => ?_, fun h => h.trans (List.prefix_append _ _)⟩
      rcases List.prefix_or_prefix_of_prefix h (List.prefix_append _ _) with h | ⟨tail, rfl⟩
      · exact h
      · rw [List.prefix_append_right_inj] at h
        rcases List.prefix_cons_iff.1 h with rfl | ⟨tail, rfl, -⟩
        · simp
        · simp at hword
    unfold word?
    simp only [List.isPrefixOf_iff_prefix, hprefix]

theorem takesPart_blanks? : TakesPart blanks? where
  length_le {text found} h := by
    unfold blanks? at h
    split at h
    · cases h
    · obtain rfl := Option.some.inj h
      exact (List.takeWhile_prefix _).length_le
  in_front text rest := by
    unfold blanks?
    rw [takeWhile_in_front (by decide)]

theorem takesPart_identifier? {isPart : Char → Bool} (hpart : isPart ';' = false) :
    TakesPart (identifier? isPart) where
  length_le {text found} h := by
    cases text with
    | nil => cases h
    | cons c text =>
      rw [identifier?] at h
      split at h
      · obtain rfl := Option.some.inj h
        exact Nat.succ_le_succ (List.takeWhile_prefix _).length_le
      · cases h
  in_front text rest := by
    cases text with
    | nil => rfl
    | cons c text => rw [List.cons_append, identifier?, identifier?, takeWhile_in_front hpart]

/-- One reader after the other: `next` is given what was taken and the text behind it. -/
def andThen {β : Type} (read? : List Char → Option (List Char))
    (next : List Char → List Char → Option β) (text : List Char) : Option β :=
  (read? text).bind fun found => next found (text.drop found.length)

section AndThen

variable {β : Type} {read? : List Char → Option (List Char)}
  {next : List Char → List Char → Option β} {text rest : List Char}

theorem TakesPart.andThen_in_front (hread : TakesPart read?)
    (hnext : ∀ found text, next found (text ++ ';' :: rest) = next found text) :
    andThen read? next (text ++ ';' :: rest) = andThen read? next text := by
  unfold andThen
  rw [hread.in_front]
  refine Option.bind_congr fun found hfound => ?_
  rw [List.drop_append_of_le_length (hread.length_le hfound), hnext]

/-- What was taken stands in the text, and the next reader goes on behind it. -/
theorem TakesPart.of_andThen (hread : TakesPart read?) {result : β}
    (h : andThen read? next text = some result) :
    ∃ found tail, found.length + tail.length = text.length ∧ next found tail = some result := by
  obtain ⟨found, hfound, hnext⟩ := Option.bind_eq_some_iff.1 h
  have hlength := hread.length_le hfound
  refine ⟨found, text.drop found.length, ?_, hnext⟩
  rw [List.length_drop]
  omega

end AndThen

/-- A class declaration is read part by part. -/
theorem classDeclaration?_eq (before : Option Char) (text : List Char) :
    classDeclaration? before text =
      if startsWord before then
        andThen (word? "class".toList) (fun keyword => andThen blanks? fun gap =>
          andThen (identifier? fun c => isWordChar c || c == '$') fun derived =>
          andThen blanks? fun gapAfter => andThen (word? "extends".toList) fun extending =>
          andThen blanks? fun gapBefore =>
          andThen (identifier? fun c => isWordChar c || c == '$' || c == '.') fun base _ =>
            some ((String.ofList derived, String.ofList base),
              keyword.length + gap.length + derived.length + gapAfter.length + extending.length +
                gapBefore.length + base.length)) text
      else none := by
  unfold classDeclaration?
  cases startsWord before <;> rfl

theorem isLocal_classDeclaration? : IsLocal classDeclaration? where
  empty before := by
    rw [classDeclaration?_eq]
    cases startsWord before <;> rfl
  in_front before text rest := by
    rw [List.append_assoc]
    show classDeclaration? before (text ++ ';' :: ('\n' :: rest)) = _
    rw [classDeclaration?_eq, classDeclaration?_eq]
    congr 1
    refine (takesPart_word? (by decide)).andThen_in_front fun keyword text => ?_
    refine takesPart_blanks?.andThen_in_front fun gap text => ?_
    refine (takesPart_identifier? (by decide)).andThen_in_front fun derived text => ?_
    refine takesPart_blanks?.andThen_in_front fun gapAfter text => ?_
    refine (takesPart_word? (by decide)).andThen_in_front fun extending text => ?_
    refine takesPart_blanks?.andThen_in_front fun gapBefore text => ?_
    exact (takesPart_identifier? (by decide)).andThen_in_front fun base text => rfl
  within rest := rfl
  behind text := rfl
  length_le before text found length h := by
    rw [classDeclaration?_eq] at h
    split at h
    · obtain ⟨keyword, tail, hkeyword, h⟩ := (takesPart_word? (by decide)).of_andThen h
      obtain ⟨gap, tail, hgap, h⟩ := takesPart_blanks?.of_andThen h
      obtain ⟨derived, tail, hderived, h⟩ := (takesPart_identifier? (by decide)).of_andThen h
      obtain ⟨gapAfter, tail, hgapAfter, h⟩ := takesPart_blanks?.of_andThen h
      obtain ⟨extending, tail, hextending, h⟩ := (takesPart_word? (by decide)).of_andThen h
      obtain ⟨gapBefore, tail, hgapBefore, h⟩ := takesPart_blanks?.of_andThen h
      obtain ⟨base, tail, hbase, h⟩ := (takesPart_identifier? (by decide)).of_andThen h
      obtain ⟨-, rfl⟩ := Prod.mk.inj (Option.some.inj h)
      omega
    · cases h

/-! ## Texts -/

theorem occurrences_toList_separated {α : Type}
    {recognise? : Option Char → List Char → Option (α × Nat)} (h : IsLocal recognise?)
    (first rest : String) :
    occurrences recognise? 0 none (first ++ ";\n" ++ rest).toList =
      occurrences recognise? 0 none first.toList ++ occurrences recognise? 0 none rest.toList := by
  have hlist : (first ++ ";\n" ++ rest).toList = first.toList ++ separator ++ rest.toList := by
    simp [separator]
  rw [hlist, h.occurrences_separated _ _ (Nat.zero_le _)]

/-- **Statements do not reach over the end of a statement.**  Whatever stands in front of a semicolon at
the end of a line and behind it, open quotes and half statements among it, the imports of the whole text
are those of the two parts, in order, and so are its classes. -/
theorem extractions_separated (first rest : String) :
    extractImports (first ++ ";\n" ++ rest) = extractImports first ++ extractImports rest ∧
      extractAllImports (first ++ ";\n" ++ rest) =
        extractAllImports first ++ extractAllImports rest ∧
      extractClasses (first ++ ";\n" ++ rest) = extractClasses first ++ extractClasses rest := by
  have hfrom := occurrences_toList_separated (isLocal_statement? decides_endsWithFrom) first rest
  have hany := occurrences_toList_separated (isLocal_statement? decides_isAnyClause) first rest
  refine ⟨?_, ?_, occurrences_toList_separated isLocal_classDeclaration? first rest⟩
  · unfold extractImports
    rw [hfrom, List.map_append]
  · unfold extractAllImports
    rw [hany, List.map_append]

example : extractAllImports "import a from 'x;\nimport 'y'" = [⟨"y"⟩] ∧
    extractAllImports "import a from 'x" = [] ∧ extractAllImports "import 'y'" = [⟨"y"⟩] := by
  decide +kernel

end CodeSearch.Import
