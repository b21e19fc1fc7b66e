import CodeSearch.Proofs.CharSet
import CodeSearch.Proofs.Query.Content
import CodeSearch.Proofs.Regex.Escape

/-!
# Calls of `fetch`

A search for the uses of an endpoint looks for `fetch(` and the endpoint, with no closing parenthesis
between them.  The escaped endpoint behind `fetch\([^)]*` is a regular expression for that
(`compileRegex_fetchExpression`), whatever characters the endpoint has.
-/

namespace CodeSearch

open Unicode (CharSet)
open Regex (Expr)

/-- `fetch(` and further on an endpoint, with no closing parenthesis between them, as it is written as a
regular expression. -/
def fetchExpression (endpoint : String) : String := "fetch\\([^)]*" ++ Regex.escape endpoint

/-- The word that starts a call of `fetch`. -/
def fetchWord : List Char := ['f', 'e', 't', 'c', 'h', '(']

/-- Any characters but closing parentheses: `[^)]*`. -/
def unclosed : Regex := .repetition (.set (CharSet.ofRange ')' ')').compl) 0 none

/-- The parts of a call of `fetch`. -/
def fetchParts (endpoint : String) : List Regex :=
  fetchWord.map .char ++ unclosed :: endpoint.toList.map .char

/-! ## Reading the expression -/

/-- `[^)]*`, as it is written. -/
def writtenUnclosed : Expr :=
  .repetition (.set (.bracketed (.literal ⟨')', false⟩) true)) 0 none

/-- The parts of a call of `fetch`, as they are written. -/
def writtenFetchParts (endpoint : String) : List Expr :=
  fetchWord.map Expr.ofChar ++ writtenUnclosed :: endpoint.toList.map Expr.ofChar

/-- The class of all characters but a closing parenthesis, after its opening bracket. -/
theorem parse?_unclosed (rest : List Char) :
    Regex.ClassExpr.parse? false ('^' :: ')' :: ']' :: rest) =
      some (.bracketed (.literal ⟨')', false⟩) true, rest) := by
  show Regex.ClassExpr.contents? false (rest.length + 2 + 1 + 1) _ [] (')' :: ']' :: rest) = _
  rw [Regex.ClassExpr.contents?]
  show Regex.ClassExpr.contents? false (rest.length + 2 + 1) _ _ (']' :: rest) = _
  rw [Regex.ClassExpr.contents?]
  rfl

theorem toList_fetchExpression (endpoint : String) :
    (fetchExpression endpoint).toList =
      fetchWord.flatMap Regex.escapeChar ++
        '[' :: '^' :: ')' :: ']' :: '*' :: endpoint.toList.flatMap Regex.escapeChar := by
  rw [fetchExpression, String.toList_append, Regex.toList_escape]
  rfl

theorem depth_writtenFetchParts_le (endpoint : String) :
    (Expr.concat (writtenFetchParts endpoint)).depth ≤ Regex.nestLimit := by
  refine Nat.le_trans (Expr.depth_concat_le (n := 2) fun part hpart => ?_) (by decide)
  simp only [writtenFetchParts, List.mem_append, List.mem_cons, List.mem_map] at hpart
  rcases hpart with ⟨c, -, rfl⟩ | rfl | ⟨c, -, rfl⟩
  · exact Nat.zero_le 2
  · exact Nat.le_refl 2
  · exact Nat.zero_le 2

/-- Each step of the reader consumes a character, so there are enough of them. -/
theorem exists_steps_fetchExpression (endpoint : String) :
    ∃ steps, (fetchExpression endpoint).length + 1 =
      steps + 1 + endpoint.toList.length + 1 + 1 + fetchWord.length := by
  have hlength := Regex.length_le_length_escape endpoint.toList
  have hfetch : (fetchWord.flatMap Regex.escapeChar).length = fetchWord.length + 1 := rfl
  refine ⟨(endpoint.toList.flatMap Regex.escapeChar).length - endpoint.toList.length + 4, ?_⟩
  rw [← String.length_toList, toList_fetchExpression, List.length_append, hfetch]
  simp only [List.length_cons]
  omega

/-- The reader takes the expression apart into the parts of a call. -/
theorem parse?_fetchExpression (endpoint : String) :
    Expr.parse? (fetchExpression endpoint) = some (.concat (writtenFetchParts endpoint)) := by
  obtain ⟨steps, hsteps⟩ := exists_steps_fetchExpression endpoint
  -- the reader keeps the parts in reverse order
  have hparts : ((endpoint.toList.map Expr.ofChar).reverse ++
      writtenUnclosed :: ((fetchWord.map Expr.ofChar).reverse ++ [])).reverse =
        writtenFetchParts endpoint := by
    simp [writtenFetchParts]
  have hlength : 2 ≤ ((endpoint.toList.map Expr.ofChar).reverse ++
      writtenUnclosed :: ((fetchWord.map Expr.ofChar).reverse ++ [])).length := by
    rw [List.length_append]
    exact Nat.le_add_left_of_le (by decide)
  have hread : Expr.rest? ((fetchExpression endpoint).length + 1) false [] [] [] []
      (fetchExpression endpoint).toList = some (.concat (writtenFetchParts endpoint)) := by
    rw [hsteps, toList_fetchExpression, Expr.rest?_escape,
      Expr.rest?_class _ _ _ _ _ (parse?_unclosed _), Expr.rest?_star _ _ _ _ _ rfl,
      Regex.dropLazy_escape, Expr.rest?_escape_end, ← writtenUnclosed,
      Expr.ofParts_eq_concat hlength, hparts]
    rfl
  unfold Expr.parse?
  rw [hread]
  exact if_pos (depth_writtenFetchParts_le endpoint)

theorem standFor_writtenFetchParts (endpoint : String) :
    Regex.StandFor (writtenFetchParts endpoint) (fetchParts endpoint) := by
  have hendpoint := Regex.StandFor.nil.chars endpoint.toList
  rw [List.append_nil, List.append_nil] at hendpoint
  exact (hendpoint.cons rfl).chars fetchWord

/-- The parts of a call, one by one or not, have the same automata. -/
theorem compact_fetchParts (endpoint : String) :
    (Regex.concat (fetchParts endpoint)).compact = (fetchCall endpoint).compact := by
  rw [compact_fetchCall, Regex.compact, Regex.Compact.sequence, fetchParts, Regex.compacts_append,
    List.foldr_append, Regex.compacts_chars, Regex.Compact.foldr_prepend_chars, unclosed, compl_closing,
    Regex.compact.compacts, List.foldr_cons, Regex.compacts_chars, Regex.Compact.foldr_prepend_chars]
  rfl

/-- The expression can be used whenever the search can. -/
theorem compileRegex_fetchExpression (endpoint : String) :
    compileRegex (fetchExpression endpoint) =
      if (fetchCall endpoint).isUsable then .ok (.concat (fetchParts endpoint)) else .error .regex := by
  have husable : (Regex.concat (fetchParts endpoint)).isUsable = (fetchCall endpoint).isUsable := by
    unfold Regex.isUsable
    rw [compact_fetchParts]
  unfold compileRegex
  rw [parse?_fetchExpression, Option.bind_some, (standFor_writtenFetchParts endpoint).ofExpr?_eq]
  dsimp only
  rw [husable]

/-! ## What the expression matches -/

/-- `fetch(` and further on the endpoint, with no closing parenthesis between them. -/
def IsCall (endpoint : String) (word : List Char) : Prop :=
  ∃ between, word = fetchWord ++ (between ++ endpoint.toList) ∧ ')' ∉ between

/-- A text has `fetch(` and further on the endpoint, with no closing parenthesis between them. -/
def CallsFetch (endpoint text : String) : Prop :=
  ∃ before between after, text = before ++ "fetch(" ++ between ++ endpoint ++ after ∧
    ')' ∉ between.toList

theorem contains_unclosed_iff {c : Char} :
    (CharSet.ofRange ')' ')').compl.contains c = true ↔ c ≠ ')' := by
  have hlast := Unicode.toNat_le_lastCodePoint c
  have hclose : c = ')' ↔ c.toNat = 41 := Char.toNat_inj.symm
  rw [compl_closing, Ne, hclose, CharSet.contains_iff (by decide)]
  simp
  grind

section Matches

variable {endpoint : String} {before after : Option Char} {word : List Char}

theorem matches_unclosed_iff : unclosed.pattern.Matches before word after ↔ ')' ∉ word := by
  rw [unclosed, Regex.matches_many_iff]
  simp only [contains_unclosed_iff]
  exact ⟨fun h hclose => h _ hclose rfl, fun h c hc heq => h (heq ▸ hc)⟩

theorem matchesAll_fetch_iff {rest : List Regex}
    (hrest : ∀ before word after, Regex.MatchesAll rest before word after ↔ word = endpoint.toList) :
    Regex.MatchesAll (fetchWord.map .char ++ unclosed :: rest) before word after ↔
      IsCall endpoint word := by
  rw [Regex.matchesAll_literal_iff]
  simp only [Regex.matchesAll_cons_iff unclosed, matches_unclosed_iff, hrest]
  constructor
  · rintro ⟨_, rfl, between, _, rfl, hfree, rfl⟩
    exact ⟨between, rfl, hfree⟩
  · rintro ⟨between, rfl, hfree⟩
    exact ⟨_, rfl, between, _, rfl, hfree, rfl⟩

theorem matches_fetchCall_iff :
    (fetchCall endpoint).pattern.Matches before word after ↔ IsCall endpoint word := by
  have hrest (before : Option Char) (word : List Char) (after : Option Char) :
      Regex.MatchesAll [.literal endpoint] before word after ↔ word = endpoint.toList := by
    rw [Regex.literal, Regex.matchesAll_concat_iff, List.append_nil, Regex.matchesAll_chars_iff]
  show Regex.MatchesAll (.concat (fetchWord.map .char) :: [unclosed, .literal endpoint]) _ _ _ ↔ _
  rw [Regex.matchesAll_concat_iff, matchesAll_fetch_iff hrest]

theorem matches_fetchParts_iff :
    (Regex.concat (fetchParts endpoint)).pattern.Matches before word after ↔ IsCall endpoint word :=
  matchesAll_fetch_iff fun _ _ _ => Regex.matchesAll_chars_iff

/-- What matches calls wherever they stand finds the texts with a call. -/
theorem occursIn_iff_callsFetch {p : Pattern Char} {text : String}
    (h : ∀ before word after, p.Matches before word after ↔ IsCall endpoint word) :
    p.occursIn text.toList = true ↔ CallsFetch endpoint text := by
  rw [Pattern.occursIn_iff]
  simp only [h]
  constructor
  · rintro ⟨first, _, last, htext, between, rfl, hfree⟩
    refine ⟨.ofList first, .ofList between, .ofList last, ?_, by simpa using hfree⟩
    rw [← String.toList_inj, htext]
    simp [fetchWord]
  · rintro ⟨first, between, last, rfl, hfree⟩
    exact ⟨first.toList, _, last.toList, by simp [fetchWord], between.toList, rfl, hfree⟩

end Matches

/-! ## The files that are found -/

/-- The endpoint is looked for by the expression that is built for it. -/
theorem findApiUsage_value_eq_findByRegex (searcher : Searcher) (root : OsText) (endpoint : String) :
    (findApiUsage searcher root endpoint).value =
      (findByRegex searcher root (fetchExpression endpoint)).value := by
  have htest (text : String) : (fetchCall endpoint).pattern.occursIn text.toList =
      (Regex.concat (fetchParts endpoint)).pattern.occursIn text.toList := by
    rw [Bool.eq_iff_iff, occursIn_iff_callsFetch fun _ _ _ => matches_fetchCall_iff,
      occursIn_iff_callsFetch fun _ _ _ => matches_fetchParts_iff]
  unfold findApiUsage findByRegex
  rw [compileRegex_fetchExpression]
  dsimp only
  split
  · simp only [htest]
    rfl
  · rfl

/-- **Uses of an endpoint.**  If the expression built for an endpoint can be used, it finds just the
texts that have `fetch(` and further on the endpoint as it is written, with no closing parenthesis
between them.  The files that are found are those of the listing that can be read and have such a
text. -/
theorem findApiUsage_lists_calls (searcher : Searcher) (root : OsText) {endpoint : String}
    {regex : Regex} (hcompile : compileRegex (fetchExpression endpoint) = .ok regex) :
    (∀ text : String, regex.pattern.occursIn text.toList = true ↔ CallsFetch endpoint text) ∧
      (findApiUsage searcher root endpoint).value =
        (findByRegex searcher root (fetchExpression endpoint)).value ∧
      ∀ file, file ∈ (findApiUsage searcher root endpoint).value.value ↔
        file ∈ (findByName searcher root "**/*").value.value ∧
          ∃ text, searcher.text? root file = some text ∧ CallsFetch endpoint text := by
  have hregex : regex = .concat (fetchParts endpoint) := by
    rw [compileRegex_fetchExpression] at hcompile
    split at hcompile
    · exact (Except.ok.inj hcompile).symm
    · cases hcompile
  have htest (text : String) :
      regex.pattern.occursIn text.toList = true ↔ CallsFetch endpoint text := by
    rw [hregex]
    exact occursIn_iff_callsFetch fun _ _ _ => matches_fetchParts_iff
  have hsame := findApiUsage_value_eq_findByRegex searcher root endpoint
  have hvalue : (findByRegex searcher root (fetchExpression endpoint)).value =
      (scanTexts searcher root fun text => regex.pattern.occursIn text.toList).value := by
    unfold findByRegex
    rw [hcompile]
    rfl
  refine ⟨htest, hsame, fun file => ?_⟩
  rw [hsame, hvalue, mem_scanTexts_value_iff]
  simp only [htest]
  rfl

/-- Two calls in one text; the parenthesis that closes the first one stands before the endpoint. -/
theorem findApiUsage_lists_calls_fetchSample :
    compileRegex (fetchExpression "/a?(b") = .ok (.concat (fetchParts "/a?(b")) ∧
      "a.ts" ∈ (findApiUsage ⟨textSample "fetch(x) fetch(y\n+'/a?(b')".toUTF8, {}⟩ "/repo"
        "/a?(b").value.value := by
  have hcompile : compileRegex (fetchExpression "/a?(b") = .ok (.concat (fetchParts "/a?(b")) := by
    rw [compileRegex_fetchExpression]
    exact if_pos (by decide +kernel)
  obtain ⟨-, -, hfiles⟩ := findApiUsage_lists_calls
    ⟨textSample "fetch(x) fetch(y\n+'/a?(b')".toUTF8, {}⟩ "/repo" hcompile
  refine ⟨hcompile, (hfiles "a.ts").2 ⟨by decide +kernel, ?_⟩⟩
  refine ⟨"fetch(x) fetch(y\n+'/a?(b')", by decide +kernel, "fetch(x) ", "y\n+'", "')", ?_⟩
  decide +kernel

end CodeSearch
