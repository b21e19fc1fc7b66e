import CodeSearch.Proofs.Toml.Grammar
import CodeSearch.Toml.Reader
import Mathlib.Data.Nat.Digits.Lemmas
import Mathlib.Tactic.IntervalCases

/-!
# TOML strings and keys are read as they were written

Each way to write a character is read in one step as that character (`basicString?_spelling`), so a
basic string is read as its text, whatever follows it (`string?_written`).  A key is read as its name,
bare or quoted, with blanks around it (`key?_written`).
-/

namespace CodeSearch.Toml

variable {c : Char} {gap rest : List Char}

/-! ## Characters -/

theorem isBlank_iff : isBlank c = true ↔ c = ' ' ∨ c = '\t' := by simp [isBlank]

theorem isPlain_iff : isPlain c = true ↔ IsTextChar c := by simp [isPlain, IsTextChar]

theorem isBare_iff : isBare c = true ↔ c.isAlphanum = true ∨ c = '_' ∨ c = '-' := by
  simp [isBare, or_assoc]

/-- Blanks are passed over. -/
theorem skipBlanks_append (h : AreBlanks gap) (rest : List Char) :
    skipBlanks (gap ++ rest) = skipBlanks rest :=
  List.dropWhile_append_of_pos fun c hc => isBlank_iff.2 (h c hc)

theorem skipBlanks_of_head (h : ∀ c ∈ rest.head?, ¬ (c = ' ' ∨ c = '\t')) :
    skipBlanks rest = rest := by
  cases rest with
  | nil => rfl
  | cons c rest =>
    have hc : isBlank c = false := by
      rw [← Bool.not_eq_true, isBlank_iff]
      exact h c rfl
    rw [skipBlanks, List.dropWhile_cons, hc]
    rfl

theorem skipBlanks_append_cons (h : AreBlanks gap) (hc : ¬ (c = ' ' ∨ c = '\t')) (rest : List Char) :
    skipBlanks (gap ++ c :: rest) = c :: rest := by
  rw [skipBlanks_append h, skipBlanks_of_head (by simpa using hc)]

/-! ## Escapes -/

theorem hexDigit?_eq {d : Char} {n : Nat} (h : IsHexDigit d n) : hexDigit? d = some n := by
  cases h with
  | small h => interval_cases n <;> decide
  | capital h => interval_cases n <;> decide

theorem mapM_hexDigit? {digits : List Char} {values : List Nat}
    (h : List.Forall₂ IsHexDigit digits values) : digits.mapM hexDigit? = some values := by
  induction h with
  | nil => rfl
  | cons hdigit _ ih =>
    rw [List.mapM_cons, hexDigit?_eq hdigit, ih]
    rfl

theorem foldl_eq_ofDigits (values : List Nat) :
    values.foldl (fun n d => n * 16 + d) 0 = Nat.ofDigits 16 values.reverse := by
  rw [Nat.ofDigits_eq_foldr, List.foldr_reverse]
  congr 1
  funext n d
  simp only [Nat.cast_id]
  omega

/-- A code of the right number of digits is read as its character. -/
theorem codePoint?_digits {digits : List Char} {values : List Nat}
    (hdigits : List.Forall₂ IsHexDigit digits values)
    (hvalue : Nat.ofDigits 16 values.reverse = c.toNat) (rest : List Char) :
    codePoint? digits.length (digits ++ rest) = some (c, rest) := by
  have hcode : values.foldl (fun n d => n * 16 + d) 0 = c.toNat := by
    rw [foldl_eq_ofDigits, hvalue]
  have hlength : ¬ values.length < digits.length := by
    rw [hdigits.length_eq]
    exact Nat.lt_irrefl _
  have hvalid : c.toNat.isValidChar := c.valid
  unfold codePoint?
  rw [List.take_left, List.drop_left, mapM_hexDigit? hdigits, Option.bind_eq_bind, Option.bind_some]
  dsimp only
  rw [if_neg hlength, hcode, dif_pos hvalid]
  rfl

/-- An escape is read as its character. -/
theorem escape?_short {mark : Char} (h : (mark, c) ∈ shortEscapes) (rest : List Char) :
    escape? (mark :: rest) = some (c, rest) := by
  simp only [shortEscapes, List.mem_cons, List.not_mem_nil, or_false, Prod.mk.injEq] at h
  rcases h with ⟨rfl, rfl⟩ | ⟨rfl, rfl⟩ | ⟨rfl, rfl⟩ | ⟨rfl, rfl⟩ | ⟨rfl, rfl⟩ | ⟨rfl, rfl⟩ |
    ⟨rfl, rfl⟩ <;> rfl

theorem escape?_code {mark : Char} {digits : List Char} {values : List Nat}
    (hmark : IsCodeMark mark digits.length) (hdigits : List.Forall₂ IsHexDigit digits values)
    (hvalue : Nat.ofDigits 16 values.reverse = c.toNat) (rest : List Char) :
    escape? (mark :: (digits ++ rest)) = some (c, rest) := by
  have hcode := codePoint?_digits hdigits hvalue rest
  generalize digits.length = count at hmark hcode
  cases hmark with
  | short => exact hcode
  | long => exact hcode

/-! ## Basic strings -/

/-- A character is read in one step, however it is written. -/
theorem basicString?_spelling {spelling : List Char} (h : SpellsChar c spelling) (steps : Nat)
    (read rest : List Char) :
    basicString? (steps + 1) read (spelling ++ rest) = basicString? steps (c :: read) rest := by
  cases h with
  | plain h hquote hslash =>
    rw [List.singleton_append, basicString?, if_neg hquote, if_neg hslash, if_pos (isPlain_iff.2 h)]
  | short h =>
    rw [List.cons_append, List.singleton_append, basicString?, if_neg (by decide), if_pos rfl,
      escape?_short h]
    rfl
  | code hmark hdigits hvalue =>
    rw [List.cons_append, List.cons_append, basicString?, if_neg (by decide), if_pos rfl,
      escape?_code hmark hdigits hvalue]
    rfl

theorem SpellsText.length_le {text body : List Char} (h : SpellsText text body) :
    text.length ≤ body.length := by
  induction h with
  | nil => exact Nat.le_refl _
  | @cons c text spelling others h _ ih =>
    have hpos : 0 < spelling.length := by cases h <;> simp
    rw [List.length_cons, List.length_append]
    omega

/-- The characters of a string are read one after the other, up to the quote behind them. -/
theorem basicString?_body {text body : List Char} (h : SpellsText text body) {steps : Nat}
    (hsteps : text.length < steps) (read rest : List Char) :
    basicString? steps read (body ++ '"' :: rest) =
      some (String.ofList (read.reverse ++ text), rest) := by
  induction h generalizing steps read with
  | nil =>
    obtain ⟨steps, rfl⟩ := Nat.exists_eq_add_one.mpr hsteps
    simp [basicString?]
  | cons h _ ih =>
    obtain ⟨steps, rfl⟩ := Nat.exists_eq_add_one.mpr (Nat.zero_lt_of_lt hsteps)
    rw [List.append_assoc, basicString?_spelling h, ih (Nat.lt_of_succ_lt_succ hsteps)]
    simp

/-- What stands behind the quote of a basic string is read as its text. -/
theorem basicString?_written {text : String} {body : List Char} (h : SpellsText text.toList body)
    (rest : List Char) :
    basicString? ((body ++ '"' :: rest).length + 1) [] (body ++ '"' :: rest) = some (text, rest) := by
  have hlength := h.length_le
  rw [basicString?_body h (by rw [List.length_append]; omega)]
  simp

/-- No spelling starts with the quote that ends the string. -/
theorem SpellsText.head_ne {text body : List Char} (h : SpellsText text body) :
    ∀ c ∈ body.head?, c ≠ '"' := by
  cases h with
  | nil => simp
  | cons h _ => cases h <;> simp [*]

/-- A string is read as its text, unless what follows makes its quotes those of several lines. -/
theorem string?_written {text : String} {written : List Char} (h : WritesString text written)
    (hrest : ∀ c ∈ rest.head?, c ≠ '"') : string? (written ++ rest) = some (text, rest) := by
  obtain @⟨body, hbody⟩ := h
  have hread := basicString?_written hbody rest
  have hshape : '"' :: (body ++ ['"']) ++ rest = '"' :: (body ++ '"' :: rest) := by simp
  rw [hshape]
  unfold string?
  split
  case h_1 others heq =>
    -- two quotes at the start are the whole string, and no third one follows
    have hhead := hbody.head_ne
    cases body with
    | nil =>
      obtain rfl : rest = '"' :: others := by simpa using heq
      exact absurd rfl (hrest _ rfl)
    | cons c body => exact absurd (List.cons.inj (List.cons.inj heq).2).1 (hhead c rfl)
  case h_3 others _ heq =>
    obtain rfl := (List.cons.inj heq).2
    exact hread
  all_goals simp_all

/-! ## Keys -/

theorem literalString?_written {name : String} (h : ∀ c ∈ name.toList, IsTextChar c ∧ c ≠ '\'')
    (rest : List Char) : literalString? (name.toList ++ '\'' :: rest) = some (name, rest) := by
  have hall : ∀ c ∈ name.toList, (isPlain c && c != '\'') = true := by
    intro c hc
    rw [Bool.and_eq_true, isPlain_iff, bne_iff_ne]
    exact h c hc
  have hspan : (name.toList ++ '\'' :: rest).span (fun c => isPlain c && c != '\'') =
      (name.toList, '\'' :: rest) := by
    rw [List.span_eq_takeWhile_dropWhile, List.takeWhile_append_of_pos hall,
      List.dropWhile_append_of_pos hall]
    simp
  rw [literalString?, hspan]
  simp

/-- The first character of a key is a quote or stands in bare keys. -/
theorem WritesKey.exists_cons {name : String} {written : List Char} (h : WritesKey name written) :
    ∃ c others, written = c :: others ∧ (isBare c = true ∨ c = '"' ∨ c = '\'') := by
  cases h with
  | bare hne h =>
    obtain ⟨c, others, hname⟩ := List.exists_cons_of_ne_nil (mt String.toList_eq_nil_iff.1 hne)
    exact ⟨c, others, hname, .inl (isBare_iff.2 (h c (by simp [hname])))⟩
  | basic h =>
    obtain ⟨-⟩ := h
    exact ⟨_, _, rfl, .inr (.inl rfl)⟩
  | literal h => exact ⟨_, _, rfl, .inr (.inr rfl)⟩

/-- A part of a key is read as its name, if what follows cannot go on with it. -/
theorem keyPart?_written {name : String} {written : List Char} (h : WritesKey name written)
    (hrest : ∀ c ∈ rest.head?, isBare c = false) :
    keyPart? (written ++ rest) = some (name, rest) := by
  cases h with
  | bare hne h =>
    have hall : ∀ c ∈ name.toList, isBare c = true := fun c hc => isBare_iff.2 (h c hc)
    have hspan : (name.toList ++ rest).span isBare = (name.toList, rest) := by
      rw [List.span_eq_takeWhile_dropWhile, List.takeWhile_append_of_pos hall,
        List.dropWhile_append_of_pos hall]
      cases rest with
      | nil => simp
      | cons c rest => simp [hrest c rfl]
    obtain ⟨c, others, hname⟩ := List.exists_cons_of_ne_nil (mt String.toList_eq_nil_iff.1 hne)
    have hc : isBare c = true := hall c (by simp [hname])
    rw [hname] at hspan ⊢
    unfold keyPart?
    split
    case h_1 heq =>
      rw [(List.cons.inj heq).1] at hc
      exact absurd hc (by decide)
    case h_2 heq =>
      rw [(List.cons.inj heq).1] at hc
      exact absurd hc (by decide)
    case h_3 =>
      rw [hspan]
      dsimp only
      rw [← hname, String.ofList_toList]
  | basic h =>
    obtain @⟨body, hbody⟩ := h
    have hread := basicString?_written hbody rest
    have hshape : '"' :: (body ++ ['"']) ++ rest = '"' :: (body ++ '"' :: rest) := by simp
    rw [hshape, keyPart?, hread]
  | literal h =>
    have hshape : '\'' :: (name.toList ++ ['\'']) ++ rest = '\'' :: (name.toList ++ '\'' :: rest) := by
      simp
    rw [hshape, keyPart?, literalString?_written h]

/-- A key of one part is read up to what ends it, with the blanks around it. -/
theorem key?_written {name : String} {before written after : List Char} (hbefore : AreBlanks before)
    (h : WritesKey name written) (hafter : AreBlanks after) (hc : c = '=' ∨ c = ']') (parts : Nat)
    (rest : List Char) :
    key? (parts + 1) (before ++ (written ++ (after ++ c :: rest))) = some ([name], c :: rest) := by
  obtain ⟨first, others, hfirst, hstart⟩ := h.exists_cons
  have hnotBlank : ¬ (first = ' ' ∨ first = '\t') := by
    rintro (rfl | rfl) <;> revert hstart <;> decide
  have hends : ∀ d ∈ (after ++ c :: rest).head?, isBare d = false := by
    cases after with
    | nil => rcases hc with rfl | rfl <;> simp <;> decide
    | cons blank after => rcases hafter blank (by simp) with rfl | rfl <;> simp <;> decide
  have hskip : skipBlanks (before ++ (written ++ (after ++ c :: rest))) =
      written ++ (after ++ c :: rest) := by
    rw [skipBlanks_append hbefore, hfirst, List.cons_append]
    exact skipBlanks_of_head (by simpa using hnotBlank)
  have hstop : skipBlanks (after ++ c :: rest) = c :: rest :=
    skipBlanks_append_cons hafter (by rcases hc with rfl | rfl <;> decide) rest
  rw [key?, hskip, keyPart?_written h hends]
  simp only [Option.bind_eq_bind, Option.bind_some, hstop]
  rcases hc with rfl | rfl <;> rfl

end CodeSearch.Toml
