import CodeSearch.Proofs.Pattern
import CodeSearch.Regex.Size

/-!
# Parts of regular expressions

`MatchesAll` takes an expression apart into its parts, one lemma for each kind of part: what a part
describes stands between the last character of what came before and the first of what follows.
Characters behind one another are one literal in the form from which automata are built
(`compact_literal`).
-/

namespace CodeSearch

open Unicode (CharSet)

namespace Regex

/-! ## Matches -/

/-- Some expressions describe a word one after the other, between the characters around it. -/
def MatchesAll (parts : List Regex) (before : Option Char) (word : List Char) (after : Option Char) :
    Prop :=
  (Regex.concat parts).pattern.Matches before word after

variable {rest : List Regex} {before after : Option Char} {word : List Char} {members : CharSet}

theorem matchesAll_nil_iff : MatchesAll [] before word after ↔ word = [] :=
  Pattern.matches_empty_iff

theorem matchesAll_cons_iff (part : Regex) :
    MatchesAll (part :: rest) before word after ↔
      ∃ u v, word = u ++ v ∧ part.pattern.Matches before u (v.head?.or after) ∧
        MatchesAll rest (u.getLast?.or before) v after :=
  Pattern.matches_sequence_cons_iff

/-- Some expressions after others. -/
theorem matchesAll_append_iff {first : List Regex} :
    MatchesAll (first ++ rest) before word after ↔
      ∃ u v, word = u ++ v ∧ MatchesAll first before u (v.head?.or after) ∧
        MatchesAll rest (u.getLast?.or before) v after := by
  induction first generalizing before word with
  | nil =>
    simp only [List.nil_append, matchesAll_nil_iff]
    constructor
    · intro h
      exact ⟨[], word, rfl, rfl, h⟩
    · rintro ⟨u, v, rfl, rfl, h⟩
      exact h
  | cons part first ih =>
    simp only [List.cons_append, matchesAll_cons_iff part, ih]
    constructor
    · rintro ⟨u, _, rfl, hu, v, w, rfl, hv, hw⟩
      rw [List.head?_append, Option.or_assoc] at hu
      refine ⟨u ++ v, w, (List.append_assoc ..).symm, ⟨u, v, rfl, hu, hv⟩, ?_⟩
      rwa [List.getLast?_append, Option.or_assoc]
    · rintro ⟨_, w, rfl, ⟨u, v, rfl, hu, hv⟩, hw⟩
      rw [List.getLast?_append, Option.or_assoc] at hw
      refine ⟨u, v ++ w, List.append_assoc .., ?_, v, w, rfl, hv, hw⟩
      rwa [List.head?_append, Option.or_assoc]

/-- Where expressions one after the other stand as one part, their own parts may stand there. -/
theorem matchesAll_concat_iff {parts : List Regex} :
    MatchesAll (.concat parts :: rest) before word after ↔
      MatchesAll (parts ++ rest) before word after := by
  rw [matchesAll_cons_iff, matchesAll_append_iff]
  rfl

/-- A condition looks at the characters on both sides. -/
theorem matchesAll_look_iff {condition : Condition} :
    MatchesAll (.look condition :: rest) before word after ↔
      condition.holds before (word.head?.or after) = true ∧ MatchesAll rest before word after := by
  rw [matchesAll_cons_iff]
  constructor
  · rintro ⟨u, v, rfl, hu, hv⟩
    obtain ⟨rfl, hholds⟩ := Pattern.matches_look_iff.1 hu
    exact ⟨hholds, hv⟩
  · rintro ⟨hholds, hrest⟩
    exact ⟨[], word, rfl, Pattern.matches_look_iff.2 ⟨rfl, hholds⟩, hrest⟩

/-- A text comes first. -/
theorem matchesAll_literal_iff {text : List Char} :
    MatchesAll (text.map .char ++ rest) before word after ↔
      ∃ v, word = text ++ v ∧ MatchesAll rest (text.getLast?.or before) v after := by
  induction text generalizing before word with
  | nil => simp
  | cons c text ih =>
    rw [List.map_cons, List.cons_append, matchesAll_cons_iff]
    constructor
    · rintro ⟨u, v, rfl, hu, hv⟩
      obtain ⟨d, rfl, hd⟩ := Pattern.matches_one_iff.1 hu
      obtain rfl : d = c := beq_iff_eq.1 hd
      obtain ⟨v, rfl, hrest⟩ := ih.1 hv
      exact ⟨v, rfl, Pattern.getLast?_cons_or (b := before) d text ▸ hrest⟩
    · rintro ⟨v, rfl, hv⟩
      refine ⟨[c], text ++ v, rfl, .one (beq_self_eq_true c), ih.2 ⟨v, rfl, ?_⟩⟩
      rwa [Pattern.getLast?_cons_or] at hv

/-- There is nothing but a text. -/
theorem matchesAll_chars_iff {text : List Char} :
    MatchesAll (text.map .char) before word after ↔ word = text := by
  rw [← List.append_nil (text.map Regex.char), matchesAll_literal_iff]
  simp [matchesAll_nil_iff]

/-- A character of a set comes first. -/
theorem matchesAll_set_iff :
    MatchesAll (.set members :: rest) before word after ↔
      ∃ c v, word = c :: v ∧ members.contains c = true ∧ MatchesAll rest (some c) v after := by
  rw [matchesAll_cons_iff]
  constructor
  · rintro ⟨u, v, rfl, hu, hv⟩
    obtain ⟨c, rfl, hc⟩ := Pattern.matches_one_iff.1 hu
    exact ⟨c, v, rfl, hc, hv⟩
  · rintro ⟨c, v, rfl, hc, hv⟩
    exact ⟨[c], v, rfl, .one hc, hv⟩

/-- Any number of characters of a set. -/
theorem matches_many_iff :
    (Regex.repetition (.set members) 0 none).pattern.Matches before word after ↔
      ∀ c ∈ word, members.contains c = true := by
  have hpower : Pattern.power (.one members.contains) 0 = .empty := by
    rw [Pattern.power]
    rfl
  show (Pattern.seq (Pattern.power (.one members.contains) 0) _).Matches _ _ _ ↔ _
  rw [hpower, Pattern.matches_seq_iff]
  constructor
  · rintro ⟨u, v, rfl, hu, hv⟩
    obtain rfl := Pattern.matches_empty_iff.1 hu
    exact Pattern.matches_star_one_iff.1 hv
  · intro h
    exact ⟨[], word, rfl, .empty, Pattern.matches_star_one_iff.2 h⟩

/-- Characters of a set, at least one of them. -/
theorem matches_some_iff :
    (Regex.repetition (.set members) 1 none).pattern.Matches before word after ↔
      word ≠ [] ∧ ∀ c ∈ word, members.contains c = true := by
  have hpower : Pattern.power (.one members.contains) 1 = .one members.contains := by
    rw [Pattern.power]
    rfl
  show (Pattern.seq (Pattern.power (.one members.contains) 1) _).Matches _ _ _ ↔ _
  rw [hpower, Pattern.matches_seq_iff]
  constructor
  · rintro ⟨u, v, rfl, hu, hv⟩
    obtain ⟨c, rfl, hc⟩ := Pattern.matches_one_iff.1 hu
    refine ⟨by simp, ?_⟩
    exact List.forall_mem_cons.2 ⟨hc, Pattern.matches_star_one_iff.1 hv⟩
  · rintro ⟨hne, h⟩
    cases word with
    | nil => exact absurd rfl hne
    | cons c word =>
      obtain ⟨hc, hword⟩ := List.forall_mem_cons.1 h
      exact ⟨[c], word, rfl, .one hc, Pattern.matches_star_one_iff.2 hword⟩

/-- Something that may be left out. -/
theorem matches_optional_iff {body : Regex} :
    (Regex.repetition body 0 (some 1)).pattern.Matches before word after ↔
      body.pattern.Matches before word after ∨ word = [] := by
  have hnone : Pattern.power body.pattern 0 = .empty := by
    rw [Pattern.power]
    rfl
  have hsome : Pattern.power body.pattern.optional 1 = body.pattern.optional := by
    rw [Pattern.power]
    rfl
  show (Pattern.seq (Pattern.power body.pattern 0) (Pattern.power body.pattern.optional 1)).Matches
    _ _ _ ↔ _
  rw [hnone, hsome, Pattern.matches_seq_iff, ← Pattern.matches_empty_iff (b := before) (a := after),
    ← Pattern.matches_alt_iff]
  constructor
  · rintro ⟨u, v, rfl, hu, hv⟩
    obtain rfl := Pattern.matches_empty_iff.1 hu
    exact hv
  · intro h
    exact ⟨[], word, rfl, .empty, h⟩

/-! ## The form from which automata are built -/

namespace Compact

/-- Characters in front of a sequence are one literal of it. -/
theorem foldr_prepend_chars (chars : List Char) (rest : List Compact) :
    (chars.map fun c => literal [c]).foldr prependParts rest = prepend (.literal chars) rest := by
  induction chars with
  | nil => rfl
  | cons c chars ih =>
    rw [List.map_cons, List.foldr_cons, ih]
    -- what stands behind a character is a literal, or it stays as it is
    rcases chars with _ | ⟨d, chars⟩
    · rcases rest with _ | ⟨_ | _, rest⟩ <;> rfl
    · rcases rest with _ | ⟨_ | _, rest⟩ <;> rfl

end Compact

theorem compacts_chars (chars : List Char) :
    compact.compacts (chars.map .char) = chars.map fun c => .literal [c] := by
  induction chars with
  | nil => rfl
  | cons c chars ih => exact congrArg (_ :: ·) ih

theorem compacts_append (first rest : List Regex) :
    compact.compacts (first ++ rest) = compact.compacts first ++ compact.compacts rest := by
  induction first with
  | nil => rfl
  | cons part first ih => exact congrArg (_ :: ·) ih

@[simp] theorem compact_literal (text : String) : (literal text).compact = .literal text.toList := by
  unfold literal
  rw [compact, compacts_chars, Compact.sequence, Compact.foldr_prepend_chars]
  rcases text.toList with _ | ⟨c, chars⟩ <;> rfl

namespace Compact

theorem flatMap_branches_chars (chars : List Char) :
    (chars.map fun c => literal [c]).flatMap branches = chars.map fun c => literal [c] := by
  rw [List.flatMap_map]
  exact List.map_eq_flatMap.symm

theorem mapM_char?_chars (chars : List Char) :
    (chars.map fun c => literal [c]).mapM char? = some chars := by
  induction chars with
  | nil => rfl
  | cons c chars ih => rw [List.map_cons, List.mapM_cons, ih]; rfl

theorem commonParts_chars (chars : List Char) :
    commonParts (chars.map fun c => literal [c]) = [] := by
  rcases chars with _ | ⟨first, _ | ⟨second, chars⟩⟩
  · rfl
  · rfl
  · show ((second :: chars).map fun c => literal [c]).foldl
      (fun common branch => sharedParts common branch.parts) [] = []
    induction second :: chars with
    | nil => rfl
    | cons c chars ih => exact ih

end Compact

/-- A choice between single characters is a set. -/
theorem compact_alternation_chars {chars : List Char} (h : 2 ≤ chars.length) :
    (alternation (chars.map .char)).compact =
      .ofSet (.ofRanges (chars.map fun c => (c.toNat, c.toNat))) := by
  rw [compact, compacts_chars, Compact.anyOf, Compact.flatMap_branches_chars]
  dsimp only
  rw [Compact.commonParts_chars, List.isEmpty_nil, if_pos rfl, Compact.oneOf,
    Compact.flatMap_branches_chars]
  obtain ⟨first, second, rest, rfl⟩ : ∃ first second rest, chars = first :: second :: rest := by
    match chars, h with
    | first :: second :: rest, _ => exact ⟨first, second, rest, rfl⟩
  have hchars := Compact.mapM_char?_chars (first :: second :: rest)
  simp only [List.map_cons] at hchars ⊢
  rw [hchars]
  rfl

end Regex

end CodeSearch
