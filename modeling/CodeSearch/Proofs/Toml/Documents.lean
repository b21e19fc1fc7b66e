import CodeSearch.Proofs.Toml.Strings

/-!
# TOML documents are read as they were written

Gaps are passed over (`skipLines?_gap`), values and statements are read as what is written
(`value?_written`, `statement?_written`), and so are whole documents, statement after statement
(`statements?_written`).
-/

namespace CodeSearch.Toml

variable {gap blanks comment newline rest : List Char}

/-! ## Gaps -/

/-- A text does not start with what may stand in a gap. -/
def EndsGap (rest : List Char) : Prop := ∀ c ∈ rest.head?, c ∉ [' ', '\t', '#', '\n', '\r']

theorem newline?_append (h : IsNewline newline) (rest : List Char) :
    newline? (newline ++ rest) = some rest := by
  cases h <;> rfl

theorem dropWhile_isPlain {body : List Char} (hbody : ∀ c ∈ body, IsTextChar c)
    (hrest : ∀ c ∈ rest.head?, ¬ IsTextChar c) : (body ++ rest).dropWhile isPlain = rest := by
  rw [List.dropWhile_append_of_pos fun c hc => isPlain_iff.2 (hbody c hc)]
  cases rest with
  | nil => rfl
  | cons c rest =>
    have hc : isPlain c = false := by
      rw [← Bool.not_eq_true, isPlain_iff]
      exact hrest c rfl
    rw [List.dropWhile_cons, hc]
    rfl

/-- No comment goes on with the end of its line. -/
theorem IsNewline.head_not (h : IsNewline newline) (rest : List Char) :
    ∀ c ∈ (newline ++ rest).head?, ¬ IsTextChar c := by
  cases h <;> simp [IsTextChar]

/-- A reader passes over blanks, and in a step over the rest of a line without a statement. -/
structure PassesLines (skip? : Nat → List Char → Option (List Char)) : Prop where
  blank : ∀ steps c rest, c = ' ' ∨ c = '\t' → skip? steps (c :: rest) = skip? steps rest
  line : ∀ steps comment newline rest, IsComment comment → IsNewline newline →
    skip? (steps + 1) (comment ++ (newline ++ rest)) = skip? steps rest

/-- Such a reader passes over a gap. -/
theorem PassesLines.append {skip? : Nat → List Char → Option (List Char)} (hskip : PassesLines skip?)
    (h : IsGap gap) {found : List Char} (hrest : ∀ steps, skip? (steps + 1) rest = some found)
    {steps : Nat} (hsteps : gap.length < steps) : skip? steps (gap ++ rest) = some found := by
  induction h generalizing steps with
  | nil =>
    obtain ⟨steps, rfl⟩ := Nat.exists_eq_add_one.mpr hsteps
    exact hrest steps
  | @blank c others hc _ ih =>
    rw [List.cons_append, hskip.blank steps c _ hc]
    exact ih (Nat.lt_of_succ_lt hsteps)
  | @line comment newline others hcomment hnewline _ ih =>
    obtain ⟨steps, rfl⟩ := Nat.exists_eq_add_one.mpr (Nat.zero_lt_of_lt hsteps)
    have hpos : 0 < newline.length := by cases hnewline <;> decide
    simp only [List.length_append] at hsteps
    rw [List.append_assoc, List.append_assoc, hskip.line steps comment newline _ hcomment hnewline]
    exact ih (by omega)

/-- With steps for all characters, it passes over a gap in front of anything. -/
theorem PassesLines.skip {skip? : Nat → List Char → Option (List Char)} (hskip : PassesLines skip?)
    (h : IsGap gap) {found : List Char} (hrest : ∀ steps, skip? (steps + 1) rest = some found) :
    skip? ((gap ++ rest).length + 1) (gap ++ rest) = some found :=
  hskip.append h hrest (by rw [List.length_append]; omega)

theorem skipBlanks_cons_blank {c : Char} (h : c = ' ' ∨ c = '\t') (rest : List Char) :
    skipBlanks (c :: rest) = skipBlanks rest := by
  have hblank : AreBlanks [c] := by simpa [AreBlanks] using h
  exact skipBlanks_append hblank rest

theorem passesLines_skipLines? : PassesLines skipLines? where
  blank steps c rest h := by
    cases steps with
    | zero => rfl
    | succ steps => rw [skipLines?, skipLines?, skipBlanks_cons_blank h]
  line steps comment newline rest hcomment hnewline := by
    cases hcomment with
    | none => cases hnewline <;> rfl
    | @text body hbody =>
      have hskip : skipBlanks ('#' :: (body ++ (newline ++ rest))) =
          '#' :: (body ++ (newline ++ rest)) := skipBlanks_of_head (by simp)
      rw [List.cons_append, skipLines?, hskip]
      simp only [Option.bind_eq_bind]
      rw [dropWhile_isPlain hbody (hnewline.head_not rest), newline?_append hnewline]
      rfl

/-- Nothing is left to pass over where a gap has ended. -/
theorem EndsGap.skipBlanks_eq (h : EndsGap rest) :
    skipBlanks rest = rest ∧
      ∀ others, rest ≠ '#' :: others ∧ rest ≠ '\n' :: others ∧ rest ≠ '\r' :: '\n' :: others := by
  refine ⟨skipBlanks_of_head fun c hc hblank => ?_, fun others => ⟨?_, ?_, ?_⟩⟩
  · exact h c hc (by rcases hblank with rfl | rfl <;> decide)
  all_goals
    rintro rfl
    exact h _ rfl (by decide)

theorem skipLines?_of_endsGap (h : EndsGap rest) (steps : Nat) :
    skipLines? (steps + 1) rest = some rest := by
  obtain ⟨hblanks, hlines⟩ := h.skipBlanks_eq
  rw [skipLines?, hblanks]
  split
  case h_1 => exact absurd rfl (hlines _).1
  case h_2 => exact absurd rfl (hlines _).2.1
  case h_3 => exact absurd rfl (hlines _).2.2
  case h_4 => rfl

/-- A gap inside a list is passed over. -/
theorem skipLines?_gap (h : IsGap gap) (hrest : EndsGap rest) :
    skipLines? ((gap ++ rest).length + 1) (gap ++ rest) = some rest :=
  passesLines_skipLines?.skip h (skipLines?_of_endsGap hrest)

/-! ## Values -/

/-- No string goes on behind a gap. -/
theorem IsGap.head_ne_quote (h : IsGap gap) (hrest : ∀ c ∈ rest.head?, c ≠ '"') :
    ∀ c ∈ (gap ++ rest).head?, c ≠ '"' := by
  cases h with
  | nil => exact hrest
  | blank hc _ => rcases hc with rfl | rfl <;> simp
  | line hcomment hnewline _ => cases hcomment <;> cases hnewline <;> simp

/-- A text in quotes is a string value. -/
theorem value?_string {text : String} {written : List Char} (h : WritesString text written)
    (depth : Nat) (hrest : ∀ c ∈ rest.head?, c ≠ '"') :
    value? depth (written ++ rest) = some (.string text, rest) := by
  have hread := string?_written h hrest
  obtain @⟨body, hbody⟩ := h
  rw [List.cons_append] at hread ⊢
  rw [value?.eq_def]
  dsimp only
  rw [if_pos (.inl rfl), hread]
  rfl

theorem WritesString.exists_cons {text : String} {written : List Char}
    (h : WritesString text written) : ∃ others, written = '"' :: others ∧ others ≠ [] := by
  obtain @⟨body, hbody⟩ := h
  exact ⟨_, rfl, by simp⟩

theorem WritesItems.length_lt {texts : List String} {written : List Char}
    (h : WritesItems texts written) : texts.length < written.length := by
  induction h with
  | nil => simp
  | last _ hitem =>
    obtain ⟨others, rfl, hothers⟩ := hitem.exists_cons
    have hpos := List.length_pos_iff.2 hothers
    simp only [List.length_append, List.length_cons, List.length_nil]
    omega
  | cons =>
    simp only [List.length_append, List.length_cons]
    omega

section Items

variable {depth steps : Nat} {items : List Toml}

/-- Behind a gap stands the bracket of a list. -/
theorem arrayItems?_end (hgap : IsGap gap) :
    arrayItems? (value? depth) (steps + 1) items (gap ++ ']' :: rest) =
      some (.array items.reverse, rest) := by
  have hskip : skipLines? _ (gap ++ ']' :: rest) = _ := skipLines?_gap hgap (by simp [EndsGap])
  rw [arrayItems?, hskip]
  rfl

/-- Or an item, and what is behind it decides. -/
theorem arrayItems?_item {text : String} {before item after : List Char} {c : Char}
    (hbefore : IsGap before) (hitem : WritesString text item) (hafter : IsGap after)
    (hc : c = ',' ∨ c = ']') :
    arrayItems? (value? depth) (steps + 1) items (before ++ (item ++ (after ++ c :: rest))) =
      if c = ',' then arrayItems? (value? depth) steps (.string text :: items) rest
      else some (.array (.string text :: items).reverse, rest) := by
  have hends : EndsGap (c :: rest) := by rcases hc with rfl | rfl <;> simp [EndsGap]
  have hquote : ∀ d ∈ (after ++ c :: rest).head?, d ≠ '"' :=
    hafter.head_ne_quote (by rcases hc with rfl | rfl <;> simp)
  have hvalue : value? depth (item ++ (after ++ c :: rest)) = some (.string text, after ++ c :: rest) :=
    value?_string hitem depth hquote
  have hbehind := skipLines?_gap hafter hends
  obtain ⟨others, rfl, -⟩ := hitem.exists_cons
  have hstart : EndsGap ('"' :: others ++ (after ++ c :: rest)) := by simp [EndsGap]
  have hskip := skipLines?_gap hbefore hstart
  rw [arrayItems?, hskip]
  rw [List.cons_append] at hvalue
  rcases hc with rfl | rfl <;> simp [hvalue, hbehind, -List.length_append]

/-- The items of a list are read one after the other, up to its bracket. -/
theorem arrayItems?_written {texts : List String} {written : List Char}
    (h : WritesItems texts written) (hsteps : texts.length < steps) (rest : List Char) :
    arrayItems? (value? depth) steps items (written ++ rest) =
      some (.array (items.reverse ++ texts.map .string), rest) := by
  obtain ⟨steps, rfl⟩ := Nat.exists_eq_add_one.mpr (Nat.zero_lt_of_lt hsteps)
  induction h generalizing steps items with
  | nil hgap =>
    rw [List.append_assoc, List.singleton_append, arrayItems?_end hgap]
    simp
  | last hbefore hitem hafter =>
    simp only [List.append_assoc, List.singleton_append]
    rw [arrayItems?_item hbefore hitem hafter (.inr rfl)]
    simp
  | @cons _ texts _ _ _ _ hbefore hitem hafter _ ih =>
    have hleft : texts.length < steps := Nat.lt_of_succ_lt_succ hsteps
    obtain ⟨steps, rfl⟩ := Nat.exists_eq_add_one.mpr (Nat.zero_lt_of_lt hleft)
    simp only [List.append_assoc, List.cons_append]
    rw [arrayItems?_item hbefore hitem hafter (.inl rfl), if_pos rfl, ih _ hleft]
    simp

end Items

/-- A value is read as what is written, where no string goes on behind it. -/
theorem value?_written {value : Toml} {written : List Char} (h : WritesValue value written)
    {depth : Nat} (hdepth : 2 ≤ depth) (hrest : ∀ c ∈ rest.head?, c ≠ '"') :
    value? depth (written ++ rest) = some (value, rest) := by
  cases h with
  | string h => exact value?_string h depth hrest
  | yes =>
    rw [value?.eq_def]
    rfl
  | no =>
    rw [value?.eq_def]
    rfl
  | texts h =>
    obtain ⟨depth, rfl⟩ := Nat.exists_eq_add_of_le' hdepth
    have hlength := h.length_lt
    rw [List.cons_append, value?.eq_def]
    dsimp only
    rw [if_neg (by decide), if_pos rfl]
    rw [arrayItems?_written h (by rw [List.length_append]; omega)]
    rfl

/-! ## Statements -/

theorem skipComment_append (h : IsComment comment)
    (hrest : ∀ c ∈ rest.head?, c ≠ '#' ∧ ¬ IsTextChar c) : skipComment (comment ++ rest) = rest := by
  cases h with
  | none =>
    cases rest with
    | nil => rfl
    | cons c rest =>
      have hc := (hrest c rfl).1
      unfold skipComment
      split <;> simp_all
  | text hbody => exact dropWhile_isPlain hbody fun c hc => (hrest c hc).2

theorem IsComment.head_not_blank (h : IsComment comment)
    (hrest : ∀ c ∈ rest.head?, ¬ (c = ' ' ∨ c = '\t')) :
    ∀ c ∈ (comment ++ rest).head?, ¬ (c = ' ' ∨ c = '\t') := by
  cases h with
  | none => exact hrest
  | text => simp

/-- Behind a statement stand blanks, a comment and the end of the line. -/
theorem lineEnd?_newline (hblanks : AreBlanks blanks) (hcomment : IsComment comment)
    (hnewline : IsNewline newline) (rest : List Char) :
    lineEnd? (blanks ++ (comment ++ (newline ++ rest))) = some rest := by
  have hblank : ∀ c ∈ (newline ++ rest).head?, ¬ (c = ' ' ∨ c = '\t') := by
    cases hnewline <;> simp
  have hend : ∀ c ∈ (newline ++ rest).head?, c ≠ '#' ∧ ¬ IsTextChar c := by
    cases hnewline <;> simp [IsTextChar]
  rw [lineEnd?, skipBlanks_append hblanks, skipBlanks_of_head (hcomment.head_not_blank hblank),
    skipComment_append hcomment hend]
  cases hnewline <;> rfl

/-- Or the end of the document. -/
theorem lineEnd?_end (hblanks : AreBlanks blanks) (hcomment : IsComment comment) :
    lineEnd? (blanks ++ comment) = some [] := by
  have hblank : ∀ c ∈ comment.head?, ¬ (c = ' ' ∨ c = '\t') := by cases hcomment <;> simp
  have hskip : skipComment (comment ++ []) = [] := skipComment_append hcomment (by simp)
  rw [List.append_nil] at hskip
  rw [lineEnd?, skipBlanks_append hblanks, skipBlanks_of_head hblank, hskip]

/-- What starts with a key is no header. -/
theorem WritesKey.head_ne_bracket {name : String} {before key : List Char} (h : WritesKey name key)
    (hbefore : AreBlanks before) (rest : List Char) :
    ∀ c ∈ (before ++ (key ++ rest)).head?, c ≠ '[' := by
  obtain ⟨first, others, rfl, hfirst⟩ := h.exists_cons
  cases before with
  | nil =>
    intro c hc
    obtain rfl : first = c := by simpa using hc
    rintro rfl
    revert hfirst
    decide
  | cons blank before => rcases hbefore blank (by simp) with rfl | rfl <;> simp

/-- A value starts with no blank. -/
theorem WritesValue.head_not_blank {value : Toml} {written : List Char}
    (h : WritesValue value written) (rest : List Char) :
    ∀ c ∈ (written ++ rest).head?, ¬ (c = ' ' ∨ c = '\t') := by
  cases h with
  | string h =>
    obtain ⟨others, rfl, -⟩ := h.exists_cons
    simp
  | yes | no | texts => simp

/-- A key with its value is read, and what is behind them is left. -/
theorem assignment?_written {name : String} {value : Toml} {key before after written : List Char}
    (hkey : WritesKey name key) (hbefore : AreBlanks before) (hafter : AreBlanks after)
    (hvalue : WritesValue value written) (hrest : ∀ c ∈ rest.head?, c ≠ '"') :
    assignment? (value? maxDepth) (key ++ (before ++ '=' :: (after ++ (written ++ rest)))) =
      some (([name], value), rest) := by
  have hname : key? (maxDepth - 1) (key ++ (before ++ '=' :: (after ++ (written ++ rest)))) =
      some ([name], '=' :: (after ++ (written ++ rest))) :=
    key?_written areBlanks_nil hkey hbefore (.inl rfl) _ _
  have hskip : skipBlanks (after ++ (written ++ rest)) = written ++ rest := by
    rw [skipBlanks_append hafter, skipBlanks_of_head (hvalue.head_not_blank rest)]
  have hread : value? maxDepth (written ++ rest) = some (value, rest) :=
    value?_written hvalue (by decide) hrest
  rw [assignment?, hname]
  simp only [Option.bind_eq_bind, Option.bind_some, hskip, hread]

/-- No string goes on where a line ends. -/
theorem head_ne_quote_of_lineEnd? {behind : List Char} (h : lineEnd? behind = some rest) :
    ∀ c ∈ behind.head?, c ≠ '"' := by
  cases behind with
  | nil => simp
  | cons c behind =>
    rintro d hd rfl
    obtain rfl : c = '"' := by simpa using hd
    cases h

/-- A statement is read as what is written, up to the end of its line. -/
theorem statement?_written {statement : Statement} {written behind : List Char}
    (h : WritesStatement statement written) (hend : lineEnd? behind = some rest) :
    statement? (written ++ behind) = some (statement, rest) := by
  cases h with
  | @header name before key after hbefore hkey hafter =>
    have hread : key? (maxDepth - 1) (before ++ (key ++ (after ++ ']' :: behind))) =
        some ([name], ']' :: behind) := key?_written hbefore hkey hafter (.inr rfl) _ _
    have hword : word? [']'] (']' :: behind) = some behind := by simp [word?]
    have hhead := hkey.head_ne_bracket hbefore (after ++ ']' :: behind)
    simp only [List.cons_append, List.append_assoc, List.nil_append]
    unfold statement?
    split
    case h_1 others heq => exact absurd rfl (hhead '[' (by rw [(List.cons.inj heq).2]; rfl))
    case h_2 others _ heq =>
      obtain rfl := (List.cons.inj heq).2
      simp only [Option.bind_eq_bind, hread, Option.bind_some, hword, hend]
    case h_3 hheader => exact absurd rfl (hheader _)
  | @assign name value key before after written hkey hbefore hafter hvalue =>
    have hread := assignment?_written hkey hbefore hafter hvalue (head_ne_quote_of_lineEnd? hend)
    have hhead := hkey.head_ne_bracket areBlanks_nil (before ++ '=' :: (after ++ (written ++ behind)))
    rw [List.nil_append] at hhead
    simp only [List.cons_append, List.append_assoc]
    unfold statement?
    split
    case h_1 others heq => exact absurd rfl (hhead '[' (by rw [heq]; rfl))
    case h_2 others _ heq => exact absurd rfl (hhead '[' (by rw [heq]; rfl))
    case h_3 => simp only [Option.bind_eq_bind, hread, Option.bind_some, hend]

/-! ## Documents -/

theorem passesLines_skipLinesToEnd? : PassesLines statements?.skipLinesToEnd? where
  blank steps c rest h := by
    cases steps with
    | zero => rfl
    | succ steps =>
      rw [statements?.skipLinesToEnd?, statements?.skipLinesToEnd?, skipBlanks_cons_blank h]
  line steps comment newline rest hcomment hnewline := by
    cases hcomment with
    | none => cases hnewline <;> rfl
    | @text body hbody =>
      have hskip : skipBlanks ('#' :: (body ++ (newline ++ rest))) =
          '#' :: (body ++ (newline ++ rest)) := skipBlanks_of_head (by simp)
      rw [List.cons_append, statements?.skipLinesToEnd?, hskip]
      simp only [dropWhile_isPlain hbody (hnewline.head_not rest)]
      cases hnewline <;> rfl

theorem skipLinesToEnd?_of_endsGap (h : EndsGap rest) (steps : Nat) :
    statements?.skipLinesToEnd? (steps + 1) rest = some rest := by
  obtain ⟨hblanks, hlines⟩ := h.skipBlanks_eq
  rw [statements?.skipLinesToEnd?, hblanks]
  split
  case h_1 => exact absurd rfl (hlines _).1
  case h_2 => exact absurd rfl (hlines _).2.1
  case h_3 => exact absurd rfl (hlines _).2.2
  case h_4 => rfl

/-- The last comment need not be ended. -/
theorem skipLinesToEnd?_comment (h : IsComment comment) (steps : Nat) :
    statements?.skipLinesToEnd? (steps + 1) comment = some [] := by
  cases h with
  | none => rfl
  | @text body hbody =>
    have hskip : skipBlanks ('#' :: body) = '#' :: body := skipBlanks_of_head (by simp)
    have hdrop : (body ++ []).dropWhile isPlain = [] := dropWhile_isPlain hbody (by simp)
    rw [List.append_nil] at hdrop
    rw [statements?.skipLinesToEnd?, hskip]
    simp only [hdrop]

theorem WritesStatement.exists_cons {statement : Statement} {written : List Char}
    (h : WritesStatement statement written) :
    ∃ c others, written = c :: others ∧ c ∉ [' ', '\t', '#', '\n', '\r'] := by
  cases h with
  | header => exact ⟨_, _, rfl, by decide⟩
  | assign hkey =>
    obtain ⟨c, others, rfl, hc⟩ := hkey.exists_cons
    refine ⟨c, _, rfl, fun hmem => ?_⟩
    simp only [List.mem_cons, List.not_mem_nil, or_false] at hmem
    rcases hmem with rfl | rfl | rfl | rfl | rfl <;> revert hc <;> decide

/-- A statement behind a gap, with the end of its line, is the next one of a document. -/
theorem statements?_statement {statement : Statement} {written behind : List Char}
    (hgap : IsGap gap) (h : WritesStatement statement written) (hend : lineEnd? behind = some rest)
    (steps : Nat) :
    statements? (steps + 1) (gap ++ (written ++ behind)) =
      (statements? steps rest).map (statement :: ·) := by
  have hread := statement?_written h hend
  obtain ⟨c, others, rfl, hc⟩ := h.exists_cons
  have hends : EndsGap (c :: others ++ behind) := by simpa [EndsGap] using hc
  have hskip := passesLines_skipLinesToEnd?.skip hgap (skipLinesToEnd?_of_endsGap hends)
  rw [statements?, hskip]
  simp only [List.cons_append] at hread ⊢
  simp only [Option.bind_eq_bind, Option.bind_some, hread]
  cases statements? steps rest <;> rfl

/-- A document is read statement by statement. -/
theorem statements?_written {statements : List Statement} {text : List Char}
    (h : WritesDocument statements text) {steps : Nat} (hsteps : text.length < steps) :
    statements? steps text = some statements := by
  -- a step is taken for each statement, and each has a character at least, so that the steps suffice
  obtain ⟨steps, rfl⟩ := Nat.exists_eq_add_one.mpr (Nat.zero_lt_of_lt hsteps)
  induction h generalizing steps with
  | nil hgap hcomment =>
    have hskip := passesLines_skipLinesToEnd?.skip hgap (skipLinesToEnd?_comment hcomment)
    rw [statements?, hskip]
    rfl
  | last hgap hstatement hblanks hcomment =>
    obtain ⟨c, others, rfl, -⟩ := hstatement.exists_cons
    simp only [List.length_append, List.length_cons] at hsteps
    obtain ⟨steps, rfl⟩ := Nat.exists_eq_add_one.mpr (show 0 < steps by omega)
    rw [statements?_statement hgap hstatement (lineEnd?_end hblanks hcomment)]
    rfl
  | cons hgap hstatement hblanks hcomment hnewline _ ih =>
    obtain ⟨c, others, rfl, -⟩ := hstatement.exists_cons
    simp only [List.length_append, List.length_cons] at hsteps
    obtain ⟨steps, rfl⟩ := Nat.exists_eq_add_one.mpr (show 0 < steps by omega)
    rw [statements?_statement hgap hstatement (lineEnd?_newline hblanks hcomment hnewline _),
      ih steps (by omega)]
    rfl

/-- A text that starts with a byte order mark is no document by itself. -/
theorem statements?_byteOrderMark (steps : Nat) (rest : List Char) :
    statements? steps ('\ufeff' :: rest) = none := by
  cases steps with
  | zero => rfl
  | succ steps => rfl

/-- A document describes the tables of its statements. -/
theorem parse?_written {statements : List Statement} {text : String}
    (h : WritesDocument statements text.toList) : parse? text = ofStatements? statements := by
  have hread : statements? (text.toList.length + 1) text.toList = some statements :=
    statements?_written h (Nat.lt_succ_self _)
  have hmark : ∀ rest, text.toList ≠ '\ufeff' :: rest := by
    intro rest heq
    rw [heq, statements?_byteOrderMark] at hread
    cases hread
  unfold parse?
  split
  case h_1 heq => exact absurd heq (hmark _)
  case h_2 =>
    dsimp only
    rw [hread]
    rfl

end CodeSearch.Toml
