import CodeSearch.Proofs.Glob
import CodeSearch.Proofs.Text
import CodeSearch.Proofs.Utf8

/-!
# Names in globs

`Glob.escape` puts characters into brackets, so that a name stands for itself in a glob.  Reading an
escaped name yields one token for each character (`readTokens_escape`), and the tokens describe the
bytes of the name (`means_escapedTokens`).

A glob has no conditions on what stands around a word, so what it describes is a property of words
alone: `Pattern.Means`.  Since `**/` takes whole segments, a glob that goes on with a name decides on the
last segment of a path (`exists_append_iff`).
-/

namespace CodeSearch

namespace Pattern

variable {α : Type} {first second : Pattern α} {P Q : List α → Prop}

/-- A pattern describes the words with a property, whatever stands around them. -/
def Means (p : Pattern α) (P : List α → Prop) : Prop :=
  ∀ before word after, Matches p before word after ↔ P word

theorem Means.congr {p : Pattern α} (h : Means p P) (hsame : ∀ word, P word ↔ Q word) :
    Means p Q :=
  fun before word after => (h before word after).trans (hsame word)

theorem means_empty : Means (.empty : Pattern α) (· = []) :=
  fun _ _ _ => matches_empty_iff

theorem means_star_one (accepts : α → Bool) :
    Means (.star (.one accepts)) fun word => ∀ x ∈ word, accepts x = true :=
  fun _ _ _ => matches_star_one_iff

theorem Means.seq (hfirst : Means first P) (hsecond : Means second Q) :
    Means (.seq first second) fun word => ∃ u v, word = u ++ v ∧ P u ∧ Q v := by
  intro before word after
  rw [matches_seq_iff]
  refine exists_congr fun u => exists_congr fun v => and_congr_right fun _ => ?_
  rw [hfirst, hsecond]

theorem Means.alt (hfirst : Means first P) (hsecond : Means second Q) :
    Means (.alt first second) fun word => P word ∨ Q word := by
  intro before word after
  rw [matches_alt_iff, hfirst, hsecond]

theorem means_literal [BEq α] [LawfulBEq α] (text : List α) : Means (.literal text) (· = text) := by
  have hone (x : α) : Means (.one (· == x)) (· = [x]) := by
    intro before word after
    rw [matches_one_iff]
    simp
  induction text with
  | nil => exact means_empty
  | cons x rest ih =>
    cases rest with
    | nil => exact hone x
    | cons y rest =>
      refine ((hone x).seq ih).congr fun word => ?_
      constructor
      · rintro ⟨u, v, rfl, rfl, rfl⟩
        rfl
      · rintro rfl
        exact ⟨[x], y :: rest, rfl, rfl, rfl⟩

/-- Something fixed comes first. -/
theorem Means.seq_of_eq {text : List α} (hfirst : Means first (· = text)) (hsecond : Means second Q) :
    Means (.seq first second) fun word => ∃ v, word = text ++ v ∧ Q v := by
  refine (hfirst.seq hsecond).congr fun word => ?_
  constructor
  · rintro ⟨u, v, rfl, rfl, hv⟩
    exact ⟨v, rfl, hv⟩
  · rintro ⟨v, rfl, hv⟩
    exact ⟨text, v, rfl, rfl, hv⟩

end Pattern

namespace Glob

open Pattern (Means)

/-- The characters that escaping puts into brackets. -/
def isMeta (c : Char) : Bool := c ∈ ['?', '*', '[', ']', '\x7b', '\x7d']

/-- A character in a glob, escaped where it has to be. -/
def escapeChar (c : Char) : List Char := if isMeta c then ['[', c, ']'] else [c]

/-- What an escaped character is read as. -/
def escapedToken (c : Char) : Token := if isMeta c then .set false [(c, c)] else .literal c

/-- What an escaped text is read as. -/
def escapedTokens (text : String) : List Token := text.toList.map escapedToken

theorem toList_escape (text : String) : (escape text).toList = text.toList.flatMap escapeChar := by
  rw [escape, String.toList_ofList]
  refine congrArg (text.toList.flatMap ·) (funext fun c => ?_)
  simp [escapeChar, isMeta]

/-! ## What escaped texts match -/

/-- One token after the other. -/
theorem means_cons {token : Token} {rest : List Token} {P Q : List UInt8 → Prop}
    (hfirst : token.pattern.Means P) (hrest : (sequencePattern rest).Means Q) :
    (sequencePattern (token :: rest)).Means fun word => ∃ u v, word = u ++ v ∧ P u ∧ Q v :=
  hfirst.seq hrest

theorem means_singleton {token : Token} {P : List UInt8 → Prop} (h : token.pattern.Means P) :
    (sequencePattern [token]).Means P := by
  refine (h.seq Pattern.means_empty).congr fun word => ?_
  simp

/-- An escaped character stands for its bytes. -/
theorem means_escapedToken (c : Char) :
    (escapedToken c).pattern.Means (· = String.utf8EncodeChar c) := by
  unfold escapedToken
  split
  · rename_i hmeta
    have hascii : c.toNat < 0x80 := by
      simp only [isMeta, List.mem_cons, List.not_mem_nil, or_false, decide_eq_true_eq] at hmeta
      rcases hmeta with rfl | rfl | rfl | rfl | rfl | rfl <;> decide
    have hbyte (b : UInt8) : inRanges ([(c, c)].flatMap byteRanges) b = true ↔
        b = .ofNat c.toNat := by
      simp [byteRanges, inRanges, utf8EncodeChar_ascii hascii, UInt8.le_antisymm_iff, and_comm]
    intro before word after
    rw [Token.pattern, Pattern.matches_one_iff, utf8EncodeChar_ascii hascii]
    simp only [Bool.bne_false, hbyte, exists_eq_right]
  · exact Pattern.means_literal _

/-- An escaped text stands for its bytes, in front of anything else. -/
theorem means_escapedTokens (text : String) {rest : List Token} {Q : List UInt8 → Prop}
    (hrest : (sequencePattern rest).Means Q) :
    (sequencePattern (escapedTokens text ++ rest)).Means
      fun word => ∃ v, word = utf8Bytes text ++ v ∧ Q v := by
  unfold escapedTokens utf8Bytes
  induction text.toList with
  | nil => exact hrest.congr fun word => by simp
  | cons c chars ih =>
    refine ((means_escapedToken c).seq_of_eq ih).congr fun word => ?_
    simp

/-- A group of escaped texts stands for the bytes of any of them. -/
theorem means_alternates (texts : List String) (hne : texts ≠ [])
    (htexts : ∀ text ∈ texts, text ≠ "") :
    (Token.alternates (texts.map escapedTokens)).pattern.Means
      fun word => ∃ text ∈ texts, word = utf8Bytes text := by
  have hblank {text : String} (h : text ≠ "") : isBlankBranch (escapedTokens text) = false := by
    unfold escapedTokens
    cases hchars : text.toList with
    | nil => exact absurd (String.toList_eq_nil_iff.1 hchars) h
    | cons c chars =>
      rw [List.map_cons, isBlankBranch, escapedToken]
      split <;> rfl
  have htext (text : String) :
      (sequencePattern (escapedTokens text)).Means (· = utf8Bytes text) := by
    have hempty : (sequencePattern []).Means (· = []) := Pattern.means_empty
    have hmeans := means_escapedTokens text hempty
    rw [List.append_nil] at hmeans
    exact hmeans.congr fun word => by simp
  rw [Token.pattern]
  induction texts with
  | nil => exact absurd rfl hne
  | cons text rest ih =>
    obtain ⟨hfirst, hrest⟩ := List.forall_mem_cons.1 htexts
    rw [List.map_cons, alternatives, hblank hfirst]
    cases rest with
    | nil => exact (htext text).congr fun word => by simp
    | cons next rest =>
      have hnext : areBlank ((next :: rest).map escapedTokens) = false := by
        rw [List.map_cons, areBlank, hblank (hrest next (by simp))]
        rfl
      rw [hnext]
      exact ((htext text).alt (ih (by simp) hrest)).congr fun word => by simp

/-! ## Whole segments -/

/-- Some segments with a slash after each of them. -/
def AreSegments (bytes : List UInt8) : Prop := bytes = [] ∨ ∃ start, bytes = start ++ [slash]

/-- `**/` takes whole segments. -/
theorem means_recursivePrefix : Token.recursivePrefix.pattern.Means AreSegments := by
  have hslash := Pattern.means_literal [slash]
  have hsome := (Pattern.means_star_one fun _ : UInt8 => true).seq hslash
  refine ((hslash.alt Pattern.means_empty).alt hsome).congr fun word => ?_
  constructor
  · rintro ((rfl | rfl) | ⟨start, _, rfl, -, rfl⟩)
    · exact .inr ⟨[], rfl⟩
    · exact .inl rfl
    · exact .inr ⟨start, rfl⟩
  · rintro (rfl | ⟨start, rfl⟩)
    · exact .inl (.inr rfl)
    · exact .inr ⟨start, [slash], rfl, by simp, rfl⟩

/-- `/**/` takes a slash and whole segments. -/
theorem means_recursiveZeroOrMore : Token.recursiveZeroOrMore.pattern.Means
    fun word => ∃ middle, word = slash :: middle ∧ AreSegments middle := by
  have hslash := Pattern.means_literal [slash]
  have hsome := (Pattern.means_star_one fun _ : UInt8 => true).seq hslash
  refine (hslash.alt (hslash.seq_of_eq hsome)).congr fun word => ?_
  constructor
  · rintro (rfl | ⟨_, rfl, start, _, rfl, -, rfl⟩)
    · exact ⟨[], rfl, .inl rfl⟩
    · exact ⟨start ++ [slash], rfl, .inr ⟨start, rfl⟩⟩
  · rintro ⟨middle, rfl, rfl | ⟨start, rfl⟩⟩
    · exact .inl rfl
    · exact .inr ⟨start ++ [slash], rfl, start, [slash], rfl, by simp, rfl⟩

/-- `*` takes anything without a slash. -/
theorem means_zeroOrMore : Token.zeroOrMore.pattern.Means (slash ∉ ·) := by
  refine (Pattern.means_star_one _).congr fun word => ?_
  constructor
  · intro h hslash
    simpa using h slash hslash
  · intro h x hx
    have hne : x ≠ slash := by
      rintro rfl
      exact h hx
    simpa using hne

/-- What follows whole segments and has no slash is determined. -/
theorem AreSegments.append_inj {first other : List UInt8} (hfirst : AreSegments first)
    (hother : AreSegments other) {name rest : List UInt8} (hname : slash ∉ name)
    (hrest : slash ∉ rest) (h : first ++ name = other ++ rest) : name = rest := by
  have hnil {bytes more : List UInt8} (hbytes : AreSegments (bytes ++ more)) (hfree : slash ∉ more) :
      more = [] := by
    rcases List.eq_nil_or_concat more with rfl | ⟨init, x, rfl⟩
    · rfl
    · rw [List.concat_eq_append, ← List.append_assoc] at hbytes
      rcases hbytes with hempty | ⟨start, hstart⟩
      · simp at hempty
      · obtain rfl : x = slash := by simpa using (List.append_inj' hstart rfl).2
        simp at hfree
  rcases List.append_eq_append_iff.1 h with ⟨more, rfl, rfl⟩ | ⟨more, rfl, rfl⟩
  · rw [hnil hother fun hmem => hname (List.mem_append_left _ hmem), List.nil_append]
  · rw [hnil hfirst fun hmem => hrest (List.mem_append_left _ hmem), List.nil_append]

/-- The bytes of a path are whole segments and its last segment. -/
theorem exists_utf8Bytes_eq_append (path : String) :
    ∃ last start, (Text.segments path).getLast? = some last ∧ '/' ∉ last.toList ∧
      AreSegments start ∧ utf8Bytes path = start ++ utf8Bytes last := by
  have hpath := Text.intercalate_segments path
  rcases List.eq_nil_or_concat (Text.segments path) with hnil | ⟨first, last, hsegments⟩
  · exact absurd hnil (Text.segments_ne_nil path)
  · rw [List.concat_eq_append] at hsegments
    have hmem : last ∈ Text.segments path := by simp [hsegments]
    have hfree : '/' ∉ last.toList := Text.no_slash_of_mem_segments hmem
    rw [hsegments] at hpath ⊢
    by_cases hfirst : first = []
    · subst hfirst
      rw [List.nil_append, String.intercalate_singleton] at hpath
      exact ⟨last, [], by simp, hfree, .inl rfl, by rw [hpath, List.nil_append]⟩
    · rw [String.intercalate_append_of_ne_nil hfirst (by simp), String.intercalate_singleton] at hpath
      refine ⟨last, utf8Bytes ("/".intercalate first) ++ [slash], by simp, hfree, .inr ⟨_, rfl⟩, ?_⟩
      rw [← hpath, utf8Bytes_append, utf8Bytes_append]
      rfl

/-- A path consists of whole segments and something without a slash exactly if that is its last
segment. -/
theorem exists_append_iff {path : String} {Q : List UInt8 → Prop} (hfree : ∀ v, Q v → slash ∉ v) :
    (∃ u v, utf8Bytes path = u ++ v ∧ AreSegments u ∧ Q v) ↔
      ∃ last, (Text.segments path).getLast? = some last ∧ Q (utf8Bytes last) := by
  obtain ⟨last, start, hlast, hslash, hstart, hpath⟩ := exists_utf8Bytes_eq_append path
  have hbytes : slash ∉ utf8Bytes last :=
    mt (mem_utf8Bytes_iff (c := '/') (by decide)).1 hslash
  rw [hpath, hlast]
  constructor
  · rintro ⟨u, v, heq, hu, hv⟩
    have hsame := hstart.append_inj hu hbytes (hfree v hv) heq
    exact ⟨last, rfl, hsame ▸ hv⟩
  · rintro ⟨_, heq, hv⟩
    obtain rfl := Option.some.inj heq
    exact ⟨start, _, rfl, hstart, hv⟩

/-! ## Reading escaped texts -/

/-- Appends tokens. -/
def Levels.pushAll (levels : Levels) (tokens : List Token) : Levels := tokens.foldl Levels.push levels

/-- An escaped character is read as one token. -/
theorem readTokens_escapeChar {c : Char} (hc : c ≠ '\\') {levels : Levels}
    (houter : levels.outer = []) (before : Option Char) (rest : List Char) :
    ∃ last, readTokens .strict before levels (escapeChar c ++ rest) =
      readTokens .strict last (levels.push (escapedToken c)) rest := by
  unfold escapeChar escapedToken
  by_cases hmeta : isMeta c = true
  · rw [if_pos hmeta, if_pos hmeta]
    refine ⟨some ']', ?_⟩
    simp only [isMeta, List.mem_cons, List.not_mem_nil, or_false, decide_eq_true_eq] at hmeta
    rcases hmeta with rfl | rfl | rfl | rfl | rfl | rfl <;> rfl
  · rw [if_neg hmeta, if_neg hmeta]
    refine ⟨some c, ?_⟩
    simp only [isMeta, List.mem_cons, List.not_mem_nil, or_false, decide_eq_true_eq, not_or] at hmeta
    by_cases hcomma : c = ','
    · subst hcomma
      rw [List.singleton_append, readTokens, Levels.inGroup, houter]
      rfl
    · rw [List.singleton_append, readTokens]
      all_goals simp_all

@[simp] theorem Levels.pushAll_cons (levels : Levels) (token : Token) (rest : List Token) :
    levels.pushAll (token :: rest) = (levels.push token).pushAll rest := rfl

@[simp] theorem Levels.pushAll_append (levels : Levels) (first rest : List Token) :
    levels.pushAll (first ++ rest) = (levels.pushAll first).pushAll rest := List.foldl_append

@[simp] theorem Levels.outer_pushAll (levels : Levels) (tokens : List Token) :
    (levels.pushAll tokens).outer = levels.outer := by
  induction tokens generalizing levels with
  | nil => rfl
  | cons token rest ih => exact ih (levels.push token)

@[simp] theorem Levels.current_pushAll (levels : Levels) (tokens : List Token) :
    (levels.pushAll tokens).inner.current = tokens.reverse ++ levels.inner.current := by
  induction tokens generalizing levels with
  | nil => rfl
  | cons token rest ih =>
    rw [pushAll_cons, ih]
    simp [push]

/-- An escaped text without backslashes is read as one token for each character. -/
theorem readTokens_escape {text : String} (htext : '\\' ∉ text.toList) (levels : Levels)
    (houter : levels.outer = []) (before : Option Char) (rest : List Char) :
    ∃ last, readTokens .strict before levels ((escape text).toList ++ rest) =
      readTokens .strict last (levels.pushAll (escapedTokens text)) rest := by
  rw [toList_escape, escapedTokens]
  generalize text.toList = chars at htext ⊢
  induction chars generalizing before levels with
  | nil => exact ⟨before, rfl⟩
  | cons c chars ih =>
    rw [List.mem_cons, not_or] at htext
    obtain ⟨last, hlast⟩ := readTokens_escapeChar (Ne.symm htext.1) houter before
      (chars.flatMap escapeChar ++ rest)
    rw [List.flatMap_cons, List.append_assoc, hlast]
    exact ih (levels.push (escapedToken c)) houter last htext.2

/-- An escaped text goes on with `./` only if its first segment is a dot. -/
theorem dot_mem_segments_of_escape {text : String} {after rest : List Char}
    (h : (escape text).toList ++ '/' :: after = '.' :: '/' :: rest) :
    "." ∈ Text.segments text := by
  have hfirst {c d : Char} {chars rest : List Char} (hd : d ≠ '[')
      (h : escapeChar c ++ chars = d :: rest) : c = d ∧ chars = rest := by
    unfold escapeChar at h
    split at h
    · exact absurd (List.cons.inj h).1.symm hd
    · exact List.cons.inj h
  rw [toList_escape] at h
  cases hchars : text.toList with
  | nil => simp [hchars] at h
  | cons c chars =>
    rw [hchars, List.flatMap_cons, List.append_assoc] at h
    obtain ⟨rfl, htail⟩ := hfirst (by decide) h
    cases chars with
    | nil =>
      obtain rfl : text = "." := by rw [← String.toList_inj, hchars]; rfl
      decide
    | cons c chars =>
      rw [List.flatMap_cons, List.append_assoc] at htail
      obtain ⟨rfl, -⟩ := hfirst (by decide) htail
      obtain rfl : text = "." ++ "/" ++ String.ofList chars := by
        rw [← String.toList_inj, hchars]
        simp
      rw [Text.segments_slash]
      exact List.mem_append_left _ (by decide)

/-- A glob that does not start with `./` is read as it stands. -/
theorem compileGlob_eq_ok {pattern : String} (hplain : ∀ rest, pattern.toList ≠ '.' :: '/' :: rest)
    {tokens : List Token}
    (hread : readTokens .strict none {} pattern.toList = .ok (Levels.pushAll {} tokens)) :
    compileGlob pattern = .ok ⟨tokens⟩ := by
  have htext : globText pattern = pattern := by
    unfold globText
    split
    · rename_i hdot
      exact absurd hdot (hplain _)
    · rfl
  rw [compileGlob, htext, parse, hread]
  simp [Levels.inGroup]

/-- `**/` at the start of a glob. -/
theorem readTokens_recursivePrefix (rest : List Char) :
    readTokens .strict none {} ('*' :: '*' :: '/' :: rest) =
      readTokens .strict (some '/') (.push {} .recursivePrefix) rest :=
  rfl

/-- `/**/` behind anything. -/
theorem readTokens_recursiveZeroOrMore (before : Option Char) (levels : Levels) (rest : List Char) :
    readTokens .strict before levels ('/' :: '*' :: '*' :: '/' :: rest) =
      readTokens .strict (some '/') (levels.push .recursiveZeroOrMore) rest :=
  rfl

/-- A glob of several tokens accepts the paths whose bytes they describe. -/
theorem accepts_eq_true_iff {tokens : List Token} (hlength : 1 < tokens.length)
    {P : List UInt8 → Prop} (h : (sequencePattern tokens).Means P) (path : OsText) :
    Glob.accepts ⟨tokens⟩ path = true ↔ P path.bytes := by
  have hpattern : Glob.pattern ⟨tokens⟩ = sequencePattern tokens := by
    unfold pattern patternOf
    split
    · rename_i hsingle
      rw [show tokens = [.recursivePrefix] from hsingle] at hlength
      exact absurd hlength (by decide)
    · rfl
  rw [Glob.accepts, Pattern.describes_iff, hpattern, h]

end Glob

end CodeSearch
