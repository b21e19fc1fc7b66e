import CodeSearch.Proofs.Import.Occurrences
import Mathlib.Data.List.TakeWhile

/-!
# The grammar of imports

A `Statement` is an import taken apart: what stands between `import` and the quotes, and what stands
between the quotes.  `Occurs` says where a text has one, and the recognisers accept exactly that
(`statement?_eq_some_iff`).  Since a clause ends at the first quote and a specifier at the next one, at
most one import starts at a place, and the imports of a text are those of a search from left to right
(`exists_isExtraction`).
-/

namespace CodeSearch.Import

open Unicode (isWordChar isWhiteSpace)

/-- A word starts or ends between two texts. -/
def IsWordBoundary (left right : List Char) : Prop :=
  left.getLast?.any isWordChar ≠ right.head?.any isWordChar

/-- The word in front of a specifier. -/
def fromWord : List Char := "from".toList

/-- The parts of an import. -/
structure Statement where
  /-- What follows the word `import`, up to the first quote. -/
  clause : List Char
  /-- The first quote. -/
  opening : Char
  /-- What stands between the quotes. -/
  specifier : List Char
  /-- The second quote. -/
  closing : Char

namespace Statement

/-- What follows the word `import`. -/
def tail (s : Statement) : List Char := s.clause ++ s.opening :: (s.specifier ++ [s.closing])

/-- The text of an import. -/
def text (s : Statement) : List Char := keyword ++ s.tail

/-- What the parts of an import may be; `IsClause` says what may stand in front of the quotes. -/
structure HasForm (IsClause : List Char → Prop) (s : Statement) : Prop where
  clause_free : ∀ c ∈ s.clause, c ≠ ';' ∧ isQuote c = false
  isClause : IsClause s.clause
  opening_isQuote : isQuote s.opening = true
  specifier_ne : s.specifier ≠ []
  specifier_free : ∀ c ∈ s.specifier, isQuote c = false ∧ c ≠ '\r' ∧ c ≠ '\n'
  closing_isQuote : isQuote s.closing = true

/-- The parts of an import with the word `import` in front of them. -/
structure IsWellFormed (IsClause : List Char → Prop) (s : Statement) : Prop
    extends s.HasForm IsClause where
  word_ends : IsWordBoundary keyword s.tail

end Statement

/-- The word `from` with blanks after it, at the end of a clause. -/
def EndsWithFrom (clause : List Char) : Prop :=
  ∃ bindings blanks, clause = bindings ++ fromWord ++ blanks ∧
    IsWordBoundary (keyword ++ bindings) fromWord ∧ ∀ c ∈ blanks, isWhiteSpace c = true

/-- What may stand in front of the quotes of any import: a clause without parentheses that ends with
`from`, or nothing but blanks. -/
def IsAnyClause (clause : List Char) : Prop :=
  (EndsWithFrom clause ∧ '(' ∉ clause ∧ ')' ∉ clause) ∨ ∀ c ∈ clause, isWhiteSpace c = true

/-- An import stands in a text, with its specifier between the quotes. -/
def Occurs (IsClause : List Char → Prop) (text : List Char) (span : Span String) : Prop :=
  ∃ before after, ∃ s : Statement, text = before ++ s.text ++ after ∧ s.IsWellFormed IsClause ∧
    IsWordBoundary before s.text ∧ span.found = String.ofList s.specifier ∧
    span.start = before.length ∧ span.stop = before.length + s.text.length

/-! ## Word boundaries -/

theorem isWordBoundary_keyword_left {right : List Char} :
    IsWordBoundary keyword right ↔ endsWord right = true := by
  have hlast : keyword.getLast?.any isWordChar = true := by decide
  rw [IsWordBoundary, hlast, endsWord]
  cases right.head?.any isWordChar <;> simp

theorem isWordBoundary_keyword_right {before rest : List Char} :
    IsWordBoundary before (keyword ++ rest) ↔ startsWord before.getLast? = true := by
  have hfirst : (keyword ++ rest).head?.any isWordChar = true :=
    (by decide : isWordChar 'i' = true)
  rw [IsWordBoundary, hfirst, startsWord]
  cases before.getLast?.any isWordChar <;> simp

theorem isWordBoundary_fromWord {bindings : List Char} (hne : bindings ≠ []) :
    IsWordBoundary (keyword ++ bindings) fromWord ↔ startsWord bindings.getLast? = true := by
  have hfirst : fromWord.head?.any isWordChar = true := by decide
  have hlast : (keyword ++ bindings).getLast? = bindings.getLast? := by
    rw [List.getLast?_append, List.getLast?_eq_some_getLast hne]
    rfl
  rw [IsWordBoundary, hfirst, hlast, startsWord]
  cases bindings.getLast?.any isWordChar <;> simp

/-! ## Clauses -/

/-- Looked at from its end, a clause ends with `from` where the reader says so. -/
theorem endsWithFrom_eq_true_iff {clause : List Char} :
    endsWithFrom clause = true ↔ ∃ bindings blanks, clause = bindings ++ fromWord ++ blanks ∧
      startsWord bindings.getLast? = true ∧ ∀ c ∈ blanks, isWhiteSpace c = true := by
  unfold endsWithFrom
  constructor
  · intro h
    have hsplit : (clause.reverse.dropWhile isWhiteSpace).reverse ++
        (clause.reverse.takeWhile isWhiteSpace).reverse = clause := by
      rw [← List.reverse_append, List.takeWhile_append_dropWhile, List.reverse_reverse]
    split at h
    · rename_i rest hrest
      refine ⟨rest.reverse, (clause.reverse.takeWhile isWhiteSpace).reverse, ?_, ?_, ?_⟩
      · rw [hrest] at hsplit
        simpa [fromWord] using hsplit.symm
      · rwa [List.getLast?_reverse]
      · intro c hc
        exact List.mem_takeWhile_imp (List.mem_reverse.1 hc)
    · cases h
  · rintro ⟨bindings, blanks, rfl, hstarts, hblanks⟩
    have hreverse : (bindings ++ fromWord ++ blanks).reverse =
        blanks.reverse ++ 'm' :: 'o' :: 'r' :: 'f' :: bindings.reverse := by
      simp [fromWord]
    have hm : ¬ isWhiteSpace 'm' = true := by decide
    rw [hreverse, List.dropWhile_append_of_pos (by simpa using hblanks),
      List.dropWhile_cons_of_neg hm]
    simpa using hstarts

/-- What may stand behind the word `import` is recognised: `isClause` decides `IsClause` for clauses
that do not go on with that word. -/
def Decides (isClause : List Char → Bool) (IsClause : List Char → Prop) : Prop :=
  ∀ clause, endsWord clause = true → (isClause clause = true ↔ IsClause clause)

theorem decides_endsWithFrom : Decides isFromClause EndsWithFrom := by
  intro clause hword
  rw [isFromClause, endsWithFrom_eq_true_iff, EndsWithFrom]
  refine exists_congr fun bindings => exists_congr fun blanks => ?_
  refine and_congr_right ?_
  rintro rfl
  refine and_congr_left' (isWordBoundary_fromWord ?_).symm
  -- `importfrom` would be one word
  rintro rfl
  simp [endsWord, fromWord] at hword
  exact absurd hword (by decide)

theorem decides_isAnyClause : Decides isAnyClause IsAnyClause := by
  intro clause hword
  have hfrom := decides_endsWithFrom clause hword
  rw [isFromClause] at hfrom
  have hparens : (!clause.any fun c => c == '(' || c == ')') = true ↔
      '(' ∉ clause ∧ ')' ∉ clause := by
    rw [Bool.not_eq_true', List.any_eq_false]
    constructor
    · intro h
      exact ⟨fun hmem => h _ hmem (by decide), fun hmem => h _ hmem (by decide)⟩
    · rintro ⟨hopen, hclose⟩ c hc heq
      rcases Bool.or_eq_true_iff.1 heq with heq | heq
      · exact hopen (beq_iff_eq.1 heq ▸ hc)
      · exact hclose (beq_iff_eq.1 heq ▸ hc)
  rw [isAnyClause, IsAnyClause, Bool.or_eq_true_iff, Bool.and_eq_true_iff, hfrom, hparens,
    List.all_eq_true, or_comm]

/-! ## Recognising an import -/

/-- A run of characters that have a property ends at the first one that does not. -/
theorem takeWhile_append_cons {p : Char → Bool} {run : List Char} (hrun : ∀ c ∈ run, p c = true)
    {c : Char} (hc : p c = false) (rest : List Char) : (run ++ c :: rest).takeWhile p = run := by
  rw [List.takeWhile_append_of_pos hrun, List.takeWhile_cons_of_neg (by simp [hc]), List.append_nil]

/-- A text goes on behind a run of characters that have a property. -/
theorem eq_takeWhile_append_drop (p : Char → Bool) (text : List Char) :
    text = text.takeWhile p ++ text.drop (text.takeWhile p).length :=
  (List.prefix_iff_eq_append.1 (List.takeWhile_prefix p)).symm

theorem quotedSpecifier?_eq_some_iff {text specifier : List Char} {length : Nat} :
    quotedSpecifier? text = some (specifier, length) ↔
      ∃ opening closing after, text = opening :: (specifier ++ closing :: after) ∧
        isQuote opening = true ∧ specifier ≠ [] ∧
        (∀ c ∈ specifier, isQuote c = false ∧ c ≠ '\r' ∧ c ≠ '\n') ∧ isQuote closing = true ∧
        length = specifier.length + 2 := by
  let isPart (c : Char) : Bool := !isQuote c && c != '\r' && c != '\n'
  have hpart (c : Char) : isPart c = true ↔ isQuote c = false ∧ c ≠ '\r' ∧ c ≠ '\n' := by
    simp [isPart, and_assoc]
  constructor
  · intro h
    cases text with
    | nil => cases h
    | cons opening rest =>
      have hrest := eq_takeWhile_append_drop isPart rest
      simp only [quotedSpecifier?] at h
      split at h
      · rename_i closing after hdrop
        split at h
        · rename_i hquotes
          obtain ⟨rfl, rfl⟩ := Prod.mk.inj (Option.some.inj h)
          simp only [Bool.and_eq_true, Bool.not_eq_true', List.isEmpty_eq_false_iff] at hquotes
          rw [hdrop] at hrest
          refine ⟨opening, closing, after, congrArg (opening :: ·) hrest, hquotes.1.1, hquotes.2, ?_,
            hquotes.1.2, rfl⟩
          exact fun c hc => (hpart c).1 (List.mem_takeWhile_imp hc)
        · cases h
      · cases h
  · rintro ⟨opening, closing, after, rfl, hopening, hne, hfree, hclosing, rfl⟩
    have hrun : (specifier ++ closing :: after).takeWhile isPart = specifier :=
      takeWhile_append_cons (fun c hc => (hpart c).2 (hfree c hc)) (by simp [isPart, hclosing]) after
    simp only [quotedSpecifier?]
    rw [show (fun c => !isQuote c && c != '\r' && c != '\n') = isPart from rfl, hrun, List.drop_left]
    simp [hopening, hclosing, hne]

/-- What stands behind the word `import` up to the first quote or semicolon. -/
def clauseOf (rest : List Char) : List Char := rest.takeWhile fun c => !isQuote c && c != ';'

/-- A clause that is followed by a quote is read off. -/
theorem clauseOf_append {clause : List Char} (hfree : ∀ c ∈ clause, c ≠ ';' ∧ isQuote c = false)
    {opening : Char} (hopening : isQuote opening = true) (rest : List Char) :
    clauseOf (clause ++ opening :: rest) = clause := by
  apply takeWhile_append_cons
  · intro c hc
    simp [hfree c hc]
  · simp [hopening]

theorem free_of_mem_clauseOf {rest : List Char} {c : Char} (h : c ∈ clauseOf rest) :
    c ≠ ';' ∧ isQuote c = false := by
  have hpart := List.mem_takeWhile_imp h
  simpa [and_comm] using hpart

/-- A clause decides where the word `import` ends, since no quote belongs to a word. -/
theorem endsWord_append_quote {opening : Char} (hopening : isQuote opening = true)
    (clause rest : List Char) : endsWord (clause ++ opening :: rest) = endsWord clause := by
  cases clause with
  | cons c clause => rfl
  | nil =>
    have hquote : isWordChar opening = false := by
      rcases Bool.or_eq_true_iff.1 hopening with h | h <;> rw [beq_iff_eq.1 h] <;> decide
    simp [endsWord, hquote]

section Statements

variable {isClause : List Char → Bool} {IsClause : List Char → Prop}
  (hdecides : Decides isClause IsClause)
include hdecides

/-- What follows the word `import` is read off as the parts of an import. -/
theorem read_tail_iff {rest found : List Char} {size : Nat} :
    (endsWord rest = true ∧ isClause (clauseOf rest) = true ∧
      quotedSpecifier? (rest.drop (clauseOf rest).length) = some (found, size)) ↔
    ∃ after, ∃ s : Statement, rest = s.tail ++ after ∧ s.IsWellFormed IsClause ∧
      found = s.specifier ∧ (clauseOf rest).length + size = s.tail.length := by
  constructor
  · rintro ⟨hends, hclause, hquoted⟩
    obtain ⟨opening, closing, after, hdrop, hopening, hne, hfree, hclosing, rfl⟩ :=
      quotedSpecifier?_eq_some_iff.1 hquoted
    have hrest : rest = clauseOf rest ++ opening :: (found ++ closing :: after) :=
      (eq_takeWhile_append_drop _ rest).trans (congrArg _ hdrop)
    have hfreeClause : ∀ c ∈ clauseOf rest, c ≠ ';' ∧ isQuote c = false :=
      fun c hc => free_of_mem_clauseOf hc
    generalize clauseOf rest = clause at *
    subst hrest
    rw [endsWord_append_quote hopening] at hends
    refine ⟨after, ⟨clause, opening, found, closing⟩, ?_, ?_, rfl, ?_⟩
    · simp [Statement.tail]
    · exact {
        word_ends := isWordBoundary_keyword_left.2
          ((endsWord_append_quote hopening clause _).trans hends)
        clause_free := hfreeClause
        isClause := (hdecides clause hends).1 hclause
        opening_isQuote := hopening
        specifier_ne := hne
        specifier_free := hfree
        closing_isQuote := hclosing }
    · simp [Statement.tail]
  · rintro ⟨after, ⟨clause, opening, found, closing⟩, rfl, hs, rfl, hsize⟩
    have hends : endsWord clause = true :=
      (endsWord_append_quote hs.opening_isQuote clause _).symm.trans
        (isWordBoundary_keyword_left.1 hs.word_ends)
    have htail : Statement.tail ⟨clause, opening, found, closing⟩ ++ after =
        clause ++ opening :: (found ++ closing :: after) := by
      simp [Statement.tail]
    rw [htail, clauseOf_append hs.clause_free hs.opening_isQuote] at hsize ⊢
    obtain rfl : size = found.length + 2 := by
      simp [Statement.tail] at hsize
      omega
    refine ⟨?_, (hdecides clause hends).2 hs.isClause, ?_⟩
    · rw [endsWord_append_quote hs.opening_isQuote, hends]
    · rw [List.drop_left]
      exact quotedSpecifier?_eq_some_iff.2 ⟨opening, closing, after, rfl, hs.opening_isQuote,
        hs.specifier_ne, hs.specifier_free, hs.closing_isQuote, rfl⟩

/-- An import is recognised exactly where a text has one. -/
theorem statement?_eq_some_iff {before text : List Char} {specifier : String} {length : Nat} :
    statement? isClause before.getLast? text = some (specifier, length) ↔
      ∃ after, ∃ s : Statement, text = s.text ++ after ∧ s.IsWellFormed IsClause ∧
        IsWordBoundary before s.text ∧ specifier = String.ofList s.specifier ∧
        length = s.text.length := by
  have hread {rest : List Char} :
      statement? isClause before.getLast? (keyword ++ rest) = some (specifier, length) ↔
        startsWord before.getLast? = true ∧ ∃ found size, (endsWord rest = true ∧
          isClause (clauseOf rest) = true ∧
          quotedSpecifier? (rest.drop (clauseOf rest).length) = some (found, size)) ∧
          specifier = String.ofList found ∧
          length = keyword.length + (clauseOf rest).length + size := by
    have hkeyword : keyword.isPrefixOf (keyword ++ rest) = true :=
      List.isPrefixOf_iff_prefix.2 (List.prefix_append _ _)
    unfold statement?
    rw [hkeyword, Bool.true_and, List.drop_left]
    show (if _ then (if (endsWord rest && isClause (clauseOf rest)) = true then
      (quotedSpecifier? (rest.drop (clauseOf rest).length)).map fun quoted : List Char × Nat =>
        (String.ofList quoted.1, keyword.length + (clauseOf rest).length + quoted.2)
      else none) else none) = _ ↔ _
    cases startsWord before.getLast? <;> cases endsWord rest <;>
      cases isClause (clauseOf rest) <;> simp [@eq_comm _ _ specifier, @eq_comm _ _ length]
  constructor
  · intro h
    have hkeyword : keyword <+: text := by
      rw [← List.isPrefixOf_iff_prefix]
      by_contra hkeyword
      simp [statement?, hkeyword] at h
    obtain ⟨rest, rfl⟩ := hkeyword
    obtain ⟨hstarts, found, size, hrest, rfl, rfl⟩ := hread.1 h
    obtain ⟨after, s, rfl, hs, rfl, hsize⟩ := (read_tail_iff hdecides).1 hrest
    refine ⟨after, s, by simp [Statement.text], hs, isWordBoundary_keyword_right.2 hstarts, rfl, ?_⟩
    rw [Statement.text, List.length_append, ← hsize, Nat.add_assoc]
  · rintro ⟨after, s, rfl, hs, hboundary, rfl, rfl⟩
    have hclause : (clauseOf (s.tail ++ after)).length + (s.specifier.length + 2) =
        s.tail.length := by
      have htail : s.tail ++ after = s.clause ++ s.opening :: (s.specifier ++ s.closing :: after) := by
        simp [Statement.tail]
      rw [htail, clauseOf_append hs.clause_free hs.opening_isQuote]
      simp [Statement.tail]
    rw [Statement.text, List.append_assoc]
    refine hread.2 ⟨isWordBoundary_keyword_right.1 hboundary, s.specifier, _,
      (read_tail_iff hdecides).2 ⟨after, s, rfl, hs, rfl, hclause⟩, rfl, ?_⟩
    rw [Statement.text, List.length_append, ← hclause, Nat.add_assoc]

/-- A recognised import takes up a part of the text. -/
theorem size_of_statement? {before : Option Char} {rest : List Char} {specifier : String}
    {length : Nat} (h : statement? isClause before rest = some (specifier, length)) :
    0 < length ∧ length ≤ rest.length := by
  have hbefore : before = before.toList.getLast? := by cases before <;> rfl
  rw [hbefore] at h
  obtain ⟨after, s, rfl, -, -, -, rfl⟩ := (statement?_eq_some_iff hdecides).1 h
  constructor
  · simp [Statement.text, keyword]
  · simp

theorem isRecognised_iff_occurs {text : List Char} {span : Span String} :
    IsRecognised (statement? isClause) text span ↔ Occurs IsClause text span := by
  constructor
  · rintro ⟨before, rest, length, rfl, hfound, hstart, hstop⟩
    obtain ⟨after, s, rfl, hs, hboundary, hspecifier, rfl⟩ :=
      (statement?_eq_some_iff hdecides).1 hfound
    exact ⟨before, after, s, by simp, hs, hboundary, hspecifier, hstart, hstop⟩
  · rintro ⟨before, after, s, rfl, hs, hboundary, hspecifier, hstart, hstop⟩
    refine ⟨before, s.text ++ after, s.text.length, by simp, ?_, hstart, hstop⟩
    exact (statement?_eq_some_iff hdecides).2 ⟨after, s, rfl, hs, hboundary, hspecifier, rfl⟩

end Statements

/-- The specifier of an import is a part of it, between its quotes. -/
theorem Occurs.exists_specifier {IsClause : List Char → Prop} {text : List Char}
    {span : Span String} (h : Occurs IsClause text span) :
    ∃ before after, text = before ++ span.found.toList ++ after ∧ span.start < before.length ∧
      before.length + span.found.toList.length < span.stop ∧ span.found.toList ≠ [] ∧
      ∀ c ∈ span.found.toList, isQuote c = false ∧ c ≠ '\r' ∧ c ≠ '\n' := by
  obtain ⟨before, after, s, rfl, hs, -, hfound, hstart, hstop⟩ := h
  rw [hfound, String.toList_ofList]
  refine ⟨before ++ keyword ++ s.clause ++ [s.opening], s.closing :: after, ?_, ?_, ?_,
    hs.specifier_ne, hs.specifier_free⟩
  · simp [Statement.text, Statement.tail]
  · simp only [hstart, List.length_append, List.length_cons]
    omega
  · simp only [hstop, Statement.text, Statement.tail, List.length_append, List.length_cons,
      List.length_nil]
    omega

/-! ## The imports of a text -/

/-- Some imports are the ones that a search from left to right finds in a text, at some spans: every
span holds an import that nothing else starts with, no two spans overlap, and no import starts outside
them. -/
structure IsExtraction (IsClause : List Char → Prop) (text : List Char)
    (references : List ImportReference) (spans : List (Span String)) : Prop where
  references_eq : references = spans.map fun span => ⟨span.found⟩
  isScan : IsScan (Occurs IsClause text) 0 spans
  unique : ∀ span other, Occurs IsClause text span → Occurs IsClause text other →
    span.start = other.start → span = other
  separate : spans.Pairwise fun span next => span.stop ≤ next.start
  specifiers : ∀ span ∈ spans, ∃ before after, text = before ++ span.found.toList ++ after ∧
    span.start < before.length ∧ before.length + span.found.toList.length < span.stop ∧
    span.found.toList ≠ [] ∧
    ∀ c ∈ span.found.toList, c ≠ '\'' ∧ c ≠ '"' ∧ c ≠ '\r' ∧ c ≠ '\n'
  covering : ∀ span, Occurs IsClause text span →
    ∃ other ∈ spans, other.start ≤ span.start ∧ span.start < other.stop

/-- Going through a text with a recogniser of imports extracts them. -/
theorem exists_isExtraction {isClause : List Char → Bool} {IsClause : List Char → Prop}
    (hdecides : Decides isClause IsClause) (text : List Char) :
    ∃ spans, IsExtraction IsClause text
      ((occurrences (statement? isClause) 0 none text).map .mk) spans := by
  have hsize (before : Option Char) (rest : List Char) (specifier : String) (length : Nat)
      (h : statement? isClause before rest = some (specifier, length)) :
      0 < length ∧ length ≤ rest.length :=
    size_of_statement? hdecides h
  have hoccurs (span : Span String) :
      IsRecognised (statement? isClause) text span ↔ Occurs IsClause text span :=
    isRecognised_iff_occurs hdecides
  obtain ⟨spans, hscan, hspans⟩ := exists_isScan_occurrences hsize [] text 0
  have hsame : IsRecognised (statement? isClause) text = Occurs IsClause text :=
    funext fun span => propext (hoccurs span)
  have hgrows (span : Span String) (h : Occurs IsClause text span) : span.start < span.stop :=
    ((hoccurs span).2 h).start_lt_stop hsize
  rw [List.nil_append, hsame] at hscan
  refine ⟨spans, ?_, hscan, ?_, hscan.pairwise hgrows, ?_, ?_⟩
  · rw [show none = ([] : List Char).getLast? from rfl, hspans, List.map_map]
    rfl
  · intro span other hspan hother hstart
    exact ((hoccurs span).2 hspan).eq_of_start_eq ((hoccurs other).2 hother) hstart
  · intro span hspan
    obtain ⟨before, after, htext, hstart, hstop, hne, hfree⟩ :=
      (hscan.of_mem hgrows hspan).1.exists_specifier
    refine ⟨before, after, htext, hstart, hstop, hne, fun c hc => ?_⟩
    obtain ⟨hquote, hline⟩ := hfree c hc
    rw [isQuote, Bool.or_eq_false_iff, beq_eq_false_iff_ne, beq_eq_false_iff_ne] at hquote
    exact ⟨hquote.1, hquote.2, hline⟩
  · intro span hspan
    exact hscan.exists_covering hspan (Nat.zero_le _)

end CodeSearch.Import
