import CodeSearch.Proofs.CharSet
import CodeSearch.Proofs.Import.Grammar
import CodeSearch.Proofs.Regex
import CodeSearch.Regex.Parser
import Mathlib.Data.List.Permutation

/-!
# Imports as regular expressions

The grammar of imports is that of two regular expressions.  `Reads` says what a part of an expression
may match in front of the quotes.  Since an import is determined by where it starts
(`IsRecognised.eq_of_start_eq`), it does not matter which match of an expression a search prefers: the
search finds what `extractImports` lists.
-/

namespace CodeSearch

open Unicode (CharSet isWordChar isWhiteSpace)

namespace Import

open Regex (MatchesAll)

/-! ## The parts of an import -/

/-- A word starts or ends: `\\b`. -/
def boundary : Regex := .look (.word (fun before after => before != after) true)

/-- A quote: `['"]`. -/
def quote : Regex := .set ⟨#[(34, 34), (39, 39)]⟩

/-- What stands between quotes: `([^'"\\r\\n]+)`. -/
def specifier : Regex :=
  .capture (.repetition (.set ⟨#[(0, 9), (11, 12), (14, 33), (35, 38), (40, 1114111)]⟩) 1 none)

/-- `from` at the end of a word, with some characters before it. -/
def bindings (members : CharSet) : List Regex :=
  .repetition (.set members) 0 none :: boundary :: fromWord.map .char

/-- The parts of an expression that read a clause to its end and a quoted specifier. -/
def closingParts : List Regex :=
  [.repetition (.set Unicode.whiteSpace) 0 none, quote, specifier, quote]

/-- An import, given what stands between the word `import` and the quotes. -/
def expression (clause : List Regex) : Regex :=
  .concat (boundary :: (keyword.map .char ++ boundary :: (clause ++ closingParts)))

/-- An import with bindings. -/
def importFrom : Regex := expression (bindings ⟨#[(0, 33), (35, 38), (40, 58), (60, 1114111)]⟩)

/-- Any import. -/
def anyImport : Regex :=
  expression [.repetition (.concat (bindings ⟨#[(0, 33), (35, 38), (42, 58), (60, 1114111)]⟩)) 0 (some 1)]

theorem parse?_importFrom :
    (Regex.Expr.parse? "\\bimport\\b[^;'\"]*?\\bfrom\\s*['\"]([^'\"\\r\\n]+)['\"]").bind
      Regex.ofExpr? = some importFrom := by
  cbv

theorem parse?_anyImport :
    (Regex.Expr.parse?
        "\\bimport\\b(?:[^;'\"()]*?\\bfrom)?\\s*['\"]([^'\"\\r\\n]+)['\"]").bind
      Regex.ofExpr? = some anyImport := by
  cbv

/-! ## What the parts match -/

theorem holds_boundary_iff {before after : Option Char} :
    (Regex.Condition.word (fun before after => before != after) true).holds before after = true ↔
      before.any isWordChar ≠ after.any isWordChar := by
  rw [Regex.Condition.holds, bne_iff_ne]
  rfl

theorem isQuote_eq_true_iff {c : Char} : isQuote c = true ↔ c.toNat = 34 ∨ c.toNat = 39 := by
  have hsingle : c = '\'' ↔ c.toNat = 39 := Char.toNat_inj.symm
  have hdouble : c = '"' ↔ c.toNat = 34 := Char.toNat_inj.symm
  simp [isQuote, hsingle, hdouble, or_comm]

theorem contains_quotes_iff {c : Char} :
    CharSet.contains ⟨#[(34, 34), (39, 39)]⟩ c = true ↔ isQuote c = true := by
  rw [isQuote_eq_true_iff, CharSet.contains_iff (by decide)]
  simp
  grind

theorem contains_specifier_iff {c : Char} :
    CharSet.contains ⟨#[(0, 9), (11, 12), (14, 33), (35, 38), (40, 1114111)]⟩ c = true ↔
      isQuote c = false ∧ c ≠ '\r' ∧ c ≠ '\n' := by
  have hlast := Unicode.toNat_le_lastCodePoint c
  have hreturn : c = '\r' ↔ c.toNat = 13 := Char.toNat_inj.symm
  have hfeed : c = '\n' ↔ c.toNat = 10 := Char.toNat_inj.symm
  rw [← Bool.not_eq_true, isQuote_eq_true_iff, Ne, Ne, hreturn, hfeed,
    CharSet.contains_iff (by decide)]
  simp
  grind

theorem contains_clause_iff {c : Char} :
    CharSet.contains ⟨#[(0, 33), (35, 38), (40, 58), (60, 1114111)]⟩ c = true ↔
      c ≠ ';' ∧ isQuote c = false := by
  have hlast := Unicode.toNat_le_lastCodePoint c
  have hsemicolon : c = ';' ↔ c.toNat = 59 := Char.toNat_inj.symm
  rw [← Bool.not_eq_true, isQuote_eq_true_iff, Ne, hsemicolon, CharSet.contains_iff (by decide)]
  simp
  grind

theorem contains_anyClause_iff {c : Char} :
    CharSet.contains ⟨#[(0, 33), (35, 38), (42, 58), (60, 1114111)]⟩ c = true ↔
      (c ≠ ';' ∧ isQuote c = false) ∧ c ≠ '(' ∧ c ≠ ')' := by
  have hlast := Unicode.toNat_le_lastCodePoint c
  have hsemicolon : c = ';' ↔ c.toNat = 59 := Char.toNat_inj.symm
  have hopen : c = '(' ↔ c.toNat = 40 := Char.toNat_inj.symm
  have hclose : c = ')' ↔ c.toNat = 41 := Char.toNat_inj.symm
  rw [← Bool.not_eq_true, isQuote_eq_true_iff, Ne, Ne, Ne, hsemicolon, hopen, hclose,
    CharSet.contains_iff (by decide)]
  simp
  grind

section Parts

variable {before after : Option Char} {word : List Char}

/-- A specifier between quotes. -/
theorem matchesAll_quoted_iff :
    MatchesAll [quote, specifier, quote] before word after ↔
      ∃ opening found closing, word = opening :: (found ++ [closing]) ∧ isQuote opening = true ∧
        found ≠ [] ∧ (∀ c ∈ found, isQuote c = false ∧ c ≠ '\r' ∧ c ≠ '\n') ∧
        isQuote closing = true := by
  have hspecifier {b a : Option Char} {found : List Char} :
      specifier.pattern.Matches b found a ↔
        found ≠ [] ∧ ∀ c ∈ found, isQuote c = false ∧ c ≠ '\r' ∧ c ≠ '\n' := by
    rw [specifier, Regex.pattern, Regex.matches_some_iff]
    simp only [contains_specifier_iff]
  rw [quote, Regex.matchesAll_set_iff]
  simp only [Regex.matchesAll_cons_iff specifier, Regex.matchesAll_set_iff,
    Regex.matchesAll_nil_iff, contains_quotes_iff, hspecifier]
  constructor
  · rintro ⟨opening, _, rfl, hopening, found, _, rfl, ⟨hne, hfree⟩, closing, _, rfl, hclosing, rfl⟩
    exact ⟨opening, found, closing, rfl, hopening, hne, hfree, hclosing⟩
  · rintro ⟨opening, found, closing, rfl, hopening, hne, hfree, hclosing⟩
    exact ⟨opening, _, rfl, hopening, found, _, rfl, ⟨hne, hfree⟩, closing, _, rfl, hclosing, rfl⟩

/-- The word `from` behind characters of a set, after the word `import`. -/
theorem matchesAll_bindings_iff (members : CharSet) (rest : List Regex) :
    MatchesAll (bindings members ++ rest) keyword.getLast? word after ↔
      ∃ names v, word = names ++ fromWord ++ v ∧ (∀ c ∈ names, members.contains c = true) ∧
        IsWordBoundary (keyword ++ names) fromWord ∧ MatchesAll rest fromWord.getLast? v after := by
  have hlast (names : List Char) :
      names.getLast?.or keyword.getLast? = (keyword ++ names).getLast? := by
    rw [List.getLast?_append]
  have hhead (v : List Char) : (fromWord ++ v).head?.or after = fromWord.head? := rfl
  have hfrom (b : Option Char) : fromWord.getLast?.or b = fromWord.getLast? := rfl
  simp only [bindings, List.cons_append, Regex.matchesAll_cons_iff (.repetition _ _ _),
    Regex.matches_many_iff, boundary, Regex.matchesAll_look_iff, Regex.matchesAll_literal_iff,
    holds_boundary_iff, hlast, hfrom, IsWordBoundary]
  constructor
  · rintro ⟨names, _, rfl, hnames, hboundary, v, rfl, hv⟩
    rw [hhead] at hboundary
    exact ⟨names, v, by simp, hnames, hboundary, hv⟩
  · rintro ⟨names, v, rfl, hnames, hboundary, hv⟩
    refine ⟨names, fromWord ++ v, by simp, hnames, ?_, v, rfl, hv⟩
    rwa [hhead]

/-- Blanks and a specifier between quotes. -/
theorem matchesAll_blanks_iff {rest : List Regex} :
    MatchesAll (.repetition (.set Unicode.whiteSpace) 0 none :: rest) before word after ↔
      ∃ blanks v, word = blanks ++ v ∧ (∀ c ∈ blanks, isWhiteSpace c = true) ∧
        MatchesAll rest (blanks.getLast?.or before) v after := by
  rw [Regex.matchesAll_cons_iff]
  simp only [Regex.matches_many_iff]
  rfl

end Parts

/-! ## What the expressions match -/

/-- Blanks may stand in a clause. -/
theorem free_of_isWhiteSpace {c : Char} (h : isWhiteSpace c = true) :
    (c ≠ ';' ∧ isQuote c = false) ∧ c ≠ '(' ∧ c ≠ ')' := by
  have hquote : isQuote c = false := by
    rw [isQuote, Bool.or_eq_false_iff, beq_eq_false_iff_ne, beq_eq_false_iff_ne]
    constructor <;> rintro rfl <;> exact absurd h (by decide)
  refine ⟨⟨?_, hquote⟩, ?_, ?_⟩ <;> rintro rfl <;> exact absurd h (by decide)

theorem free_of_mem_fromWord {c : Char} (h : c ∈ fromWord) :
    (c ≠ ';' ∧ isQuote c = false) ∧ c ≠ '(' ∧ c ≠ ')' := by
  rw [show fromWord = ['f', 'r', 'o', 'm'] from rfl] at h
  simp only [List.mem_cons, List.not_mem_nil, or_false] at h
  rcases h with rfl | rfl | rfl | rfl <;> decide

/-- Blanks in front of a quoted specifier. -/
theorem matchesAll_closingParts_iff {before after : Option Char} {word : List Char} :
    MatchesAll closingParts before word after ↔
      ∃ blanks opening found closing, word = blanks ++ opening :: (found ++ [closing]) ∧
        (∀ c ∈ blanks, isWhiteSpace c = true) ∧ isQuote opening = true ∧ found ≠ [] ∧
        (∀ c ∈ found, isQuote c = false ∧ c ≠ '\r' ∧ c ≠ '\n') ∧ isQuote closing = true := by
  rw [closingParts, matchesAll_blanks_iff]
  simp only [matchesAll_quoted_iff]
  constructor
  · rintro ⟨blanks, _, rfl, hblanks, opening, found, closing, rfl, hparts⟩
    exact ⟨blanks, opening, found, closing, rfl, hblanks, hparts⟩
  · rintro ⟨blanks, opening, found, closing, rfl, hblanks, hparts⟩
    exact ⟨blanks, _, rfl, hblanks, opening, found, closing, rfl, hparts⟩

/-- An expression reads clauses of a kind, with quoted specifiers behind them. -/
def Reads (clause : List Regex) (IsClause : List Char → Prop) : Prop :=
  ∀ word after, MatchesAll (clause ++ closingParts) keyword.getLast? word after ↔
    ∃ s : Statement, word = s.tail ∧ s.HasForm IsClause

theorem reads_bindings :
    Reads (bindings ⟨#[(0, 33), (35, 38), (40, 58), (60, 1114111)]⟩) EndsWithFrom := by
  intro word after
  rw [matchesAll_bindings_iff]
  simp only [contains_clause_iff, matchesAll_closingParts_iff]
  constructor
  · rintro ⟨names, _, rfl, hnames, hboundary, blanks, opening, found, closing, rfl, hblanks, hopening,
      hne, hfree, hclosing⟩
    refine ⟨⟨names ++ fromWord ++ blanks, opening, found, closing⟩, by simp [Statement.tail], ?_⟩
    refine ⟨?_, ⟨names, blanks, rfl, hboundary, hblanks⟩, hopening, hne, hfree, hclosing⟩
    intro c hc
    rcases List.mem_append.1 hc with hc | hc
    · rcases List.mem_append.1 hc with hc | hc
      · exact hnames c hc
      · exact (free_of_mem_fromWord hc).1
    · exact (free_of_isWhiteSpace (hblanks c hc)).1
  · rintro ⟨⟨_, opening, found, closing⟩, rfl, hfree, ⟨names, blanks, rfl, hboundary, hblanks⟩,
      hopening, hne, hfound, hclosing⟩
    refine ⟨names, blanks ++ opening :: (found ++ [closing]), by simp [Statement.tail], ?_, hboundary,
      blanks, opening, found, closing, rfl, hblanks, hopening, hne, hfound, hclosing⟩
    exact fun c hc => hfree c (by simp [hc])

theorem reads_anyClause :
    Reads [.repetition (.concat (bindings ⟨#[(0, 33), (35, 38), (42, 58), (60, 1114111)]⟩)) 0 (some 1)]
      IsAnyClause := by
  intro word after
  have hbindings {u : List Char} {a : Option Char} :
      (Regex.concat (bindings ⟨#[(0, 33), (35, 38), (42, 58), (60, 1114111)]⟩)).pattern.Matches
        keyword.getLast? u a ↔
      ∃ names, u = names ++ fromWord ∧
        (∀ c ∈ names, (c ≠ ';' ∧ isQuote c = false) ∧ c ≠ '(' ∧ c ≠ ')') ∧
        IsWordBoundary (keyword ++ names) fromWord := by
    show MatchesAll (bindings _) keyword.getLast? u a ↔ _
    rw [← List.append_nil (bindings _), matchesAll_bindings_iff]
    simp only [contains_anyClause_iff, Regex.matchesAll_nil_iff]
    constructor
    · rintro ⟨names, _, rfl, hnames, hboundary, rfl⟩
      exact ⟨names, by simp, hnames, hboundary⟩
    · rintro ⟨names, rfl, hnames, hboundary⟩
      exact ⟨names, [], by simp, hnames, hboundary, rfl⟩
  rw [List.singleton_append, Regex.matchesAll_cons_iff]
  simp only [Regex.matches_optional_iff, hbindings, matchesAll_closingParts_iff]
  constructor
  · rintro ⟨_, _, rfl, ⟨names, rfl, hnames, hboundary⟩ | rfl, blanks, opening, found, closing, rfl,
      hblanks, hparts⟩
    · have hall : ∀ c ∈ names ++ fromWord ++ blanks,
          (c ≠ ';' ∧ isQuote c = false) ∧ c ≠ '(' ∧ c ≠ ')' := by
        intro c hc
        rcases List.mem_append.1 hc with hc | hc
        · rcases List.mem_append.1 hc with hc | hc
          · exact hnames c hc
          · exact free_of_mem_fromWord hc
        · exact free_of_isWhiteSpace (hblanks c hc)
      obtain ⟨hopening, hne, hfound, hclosing⟩ := hparts
      refine ⟨⟨names ++ fromWord ++ blanks, opening, found, closing⟩, by simp [Statement.tail],
        fun c hc => (hall c hc).1, .inl ⟨⟨names, blanks, rfl, hboundary, hblanks⟩, ?_, ?_⟩, hopening,
        hne, hfound, hclosing⟩
      · exact fun hmem => (hall _ hmem).2.1 rfl
      · exact fun hmem => (hall _ hmem).2.2 rfl
    · obtain ⟨hopening, hne, hfound, hclosing⟩ := hparts
      exact ⟨⟨blanks, opening, found, closing⟩, rfl,
        fun c hc => (free_of_isWhiteSpace (hblanks c hc)).1, .inr hblanks, hopening, hne, hfound,
        hclosing⟩
  · rintro ⟨⟨clause, opening, found, closing⟩, rfl, hfree, hclause, hopening, hne, hfound, hclosing⟩
    rcases hclause with ⟨⟨names, blanks, hsplit, hboundary, hblanks⟩, hopen, hclose⟩ | hblanks
    · obtain rfl : clause = names ++ fromWord ++ blanks := hsplit
      refine ⟨names ++ fromWord, blanks ++ opening :: (found ++ [closing]), by simp [Statement.tail],
        .inl ⟨names, rfl, ?_, hboundary⟩, blanks, opening, found, closing, rfl, hblanks, hopening, hne,
        hfound, hclosing⟩
      intro c hc
      refine ⟨hfree c (by simp [hc]), ?_, ?_⟩
      · rintro rfl
        exact hopen (by simp [hc])
      · rintro rfl
        exact hclose (by simp [hc])
    · exact ⟨[], clause ++ opening :: (found ++ [closing]), rfl, .inr rfl, clause, opening, found,
        closing, rfl, hblanks, hopening, hne, hfound, hclosing⟩

/-- An import is matched exactly where its parts are in order. -/
theorem matches_expression_iff {clause : List Regex} {IsClause : List Char → Prop}
    (hclause : Reads clause IsClause) {before word : List Char} {after : Option Char} :
    (expression clause).pattern.Matches before.getLast? word after ↔
      ∃ s : Statement, word = s.text ∧ s.IsWellFormed IsClause ∧ IsWordBoundary before s.text := by
  have hhead (s : Statement) : s.tail.head?.or after = s.tail.head? := by
    unfold Statement.tail
    cases s.clause <;> rfl
  have hword (s : Statement) : s.text.head?.or after = s.text.head? := rfl
  have hkeyword (b : Option Char) : keyword.getLast?.or b = keyword.getLast? := rfl
  show MatchesAll (boundary :: (keyword.map .char ++ boundary :: (clause ++ closingParts))) _ _ _ ↔ _
  simp only [boundary, Regex.matchesAll_look_iff, Regex.matchesAll_literal_iff, holds_boundary_iff,
    hkeyword, hclause _ _]
  constructor
  · rintro ⟨hbefore, _, rfl, hends, s, rfl, hform⟩
    rw [hhead] at hends
    exact ⟨s, rfl, ⟨hform, hends⟩, hbefore⟩
  · rintro ⟨s, rfl, hs, hboundary⟩
    refine ⟨hboundary, s.tail, rfl, ?_, s, rfl, hs.toHasForm⟩
    rw [hhead]
    exact hs.word_ends

theorem matches_expression_iff_occurs {clause : List Regex} {IsClause : List Char → Prop}
    (hclause : Reads clause IsClause) {before word after : List Char} :
    (expression clause).pattern.Matches before.getLast? word after.head? ↔
      ∃ found, Occurs IsClause (before ++ word ++ after)
        ⟨before.length, before.length + word.length, found⟩ := by
  rw [matches_expression_iff hclause]
  constructor
  · rintro ⟨s, rfl, hs, hboundary⟩
    exact ⟨String.ofList s.specifier, before, after, s, rfl, hs, hboundary, rfl, rfl, rfl⟩
  · rintro ⟨found, first, last, s, htext, hs, hboundary, -, hstart, hstop⟩
    dsimp only at hstart hstop
    rw [List.append_assoc, List.append_assoc] at htext
    obtain ⟨rfl, hrest⟩ := List.append_inj htext hstart
    obtain ⟨rfl, -⟩ := List.append_inj hrest (by omega)
    exact ⟨s, rfl, hs, hboundary⟩

/-- A written expression matches just the imports of a text, wherever they stand. -/
def Describes (written : String) (IsClause : List Char → Prop) : Prop :=
  ∃ regex, (Regex.Expr.parse? written).bind Regex.ofExpr? = some regex ∧
    ∀ before word after, regex.pattern.Matches before.getLast? word after.head? ↔
      ∃ found, Occurs IsClause (before ++ word ++ after)
        ⟨before.length, before.length + word.length, found⟩

/-- **Extraction accepts exactly the grammar.**  The imports of a text are those that a search from left
to right finds, each from the end of the one before: with bindings, where the clause ends with `from`,
and any imports, where the clause has no parentheses besides or is blank.  Two regular expressions match
the same parts of texts. -/
theorem extractImports_scans_grammar (text : String) :
    (∃ spans, IsExtraction EndsWithFrom text.toList (extractImports text) spans) ∧
      (∃ spans, IsExtraction IsAnyClause text.toList (extractAllImports text) spans) ∧
      Describes "\\bimport\\b[^;'\"]*?\\bfrom\\s*['\"]([^'\"\\r\\n]+)['\"]" EndsWithFrom ∧
      Describes "\\bimport\\b(?:[^;'\"()]*?\\bfrom)?\\s*['\"]([^'\"\\r\\n]+)['\"]"
        IsAnyClause := by
  refine ⟨exists_isExtraction decides_endsWithFrom text.toList,
    exists_isExtraction decides_isAnyClause text.toList, ?_, ?_⟩
  · exact ⟨importFrom, parse?_importFrom, fun _ _ _ => matches_expression_iff_occurs reads_bindings⟩
  · exact ⟨anyImport, parse?_anyImport, fun _ _ _ => matches_expression_iff_occurs reads_anyClause⟩

example : extractImports "import a from 'x'; import('y'); import 'z'" = [⟨"x"⟩] ∧
    extractAllImports "import a from 'x'; import('y'); import 'z'" = [⟨"x"⟩, ⟨"z"⟩] := by
  decide +kernel

end Import

end CodeSearch
