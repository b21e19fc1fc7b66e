import CodeSearch.Pattern.Matcher

/-!
# Matching by marks finds what patterns mean

`Marked.Runs` says what the marks of a pattern stand for: from some mark, the rest of the word leads to
the end of the pattern.  Consuming a symbol keeps this meaning (`runs_advance`), and so does consuming a
whole text.  Hence `describes` and `occursIn` decide `Matches`.

The look conditions make the symbols around a word part of every statement: what a part of a pattern
sees in front of it is the last symbol of the part before, or what stands before the whole.
-/

namespace CodeSearch

variable {α : Type}

namespace Pattern

variable {b a : Option α} {w : List α}

/-! ## Inversion of matches -/

theorem matches_empty_iff : Matches .empty b w a ↔ w = [] := by
  constructor
  · rintro ⟨⟩
    rfl
  · rintro rfl
    exact .empty

theorem matches_one_iff {accepts : α → Bool} :
    Matches (.one accepts) b w a ↔ ∃ x, w = [x] ∧ accepts x = true := by
  constructor
  · intro h
    cases h with
    | one hx => exact ⟨_, rfl, hx⟩
  · rintro ⟨x, rfl, hx⟩
    exact .one hx

theorem matches_look_iff {holds : Option α → Option α → Bool} :
    Matches (.look holds) b w a ↔ w = [] ∧ holds b a = true := by
  constructor
  · intro h
    cases h with
    | look hx => exact ⟨rfl, hx⟩
  · rintro ⟨rfl, hx⟩
    exact .look hx

theorem matches_seq_iff {first second : Pattern α} :
    Matches (.seq first second) b w a ↔
      ∃ u v, w = u ++ v ∧ Matches first b u (v.head?.or a) ∧
        Matches second (u.getLast?.or b) v a := by
  constructor
  · intro h
    cases h with
    | seq hu hv => exact ⟨_, _, rfl, hu, hv⟩
  · rintro ⟨u, v, rfl, hu, hv⟩
    exact .seq hu hv

theorem matches_alt_iff {left right : Pattern α} :
    Matches (.alt left right) b w a ↔ Matches left b w a ∨ Matches right b w a := by
  constructor
  · intro h
    cases h with
    | left h => exact .inl h
    | right h => exact .inr h
  · rintro (h | h)
    · exact .left h
    · exact .right h

/-- Splitting a nonempty word: the first part is empty, or it takes the first symbol. -/
theorem exists_split_cons {x : α} {w : List α} {P : List α → List α → Prop} :
    (∃ u v, x :: w = u ++ v ∧ P u v) ↔ P [] (x :: w) ∨ ∃ u v, w = u ++ v ∧ P (x :: u) v := by
  constructor
  · rintro ⟨u, v, heq, h⟩
    rcases List.cons_eq_append_iff.1 heq with ⟨rfl, rfl⟩ | ⟨u, rfl, rfl⟩
    · exact .inl h
    · exact .inr ⟨u, v, rfl, h⟩
  · rintro (h | ⟨u, v, rfl, h⟩)
    · exact ⟨[], x :: w, rfl, h⟩
    · exact ⟨x :: u, v, rfl, h⟩

theorem getLast?_cons_or (x : α) (u : List α) :
    (x :: u).getLast?.or b = u.getLast?.or (some x) := by
  rw [List.getLast?_cons]
  cases u.getLast? <;> rfl

/-- A star consumes a nonempty word by a first round that takes its first symbol. -/
theorem matches_star_cons_iff {body : Pattern α} {x : α} :
    Matches (.star body) b (x :: w) a ↔
      ∃ u v, w = u ++ v ∧ Matches body b (x :: u) (v.head?.or a) ∧
        Matches (.star body) (u.getLast?.or (some x)) v a := by
  constructor
  · intro h
    generalize hp : Pattern.star body = p at h
    generalize hw : x :: w = word at h
    -- the induction is on the rounds: the first ones may be empty
    induction h with
    | @again body b u v a hu hv _ ih =>
      cases hp
      rcases List.cons_eq_append_iff.1 hw with ⟨rfl, rfl⟩ | ⟨u, rfl, rfl⟩
      · simpa using ih rfl rfl
      · exact ⟨u, v, rfl, hu, getLast?_cons_or x u ▸ hv⟩
    | stop => cases hw
    | _ => cases hp
  · rintro ⟨u, v, rfl, hu, hv⟩
    rw [← getLast?_cons_or (b := b)] at hv
    exact .again hu hv

/-- A class any number of times describes the words over the class. -/
theorem matches_star_one_iff {accepts : α → Bool} :
    Matches (.star (.one accepts)) b w a ↔ ∀ x ∈ w, accepts x = true := by
  induction w generalizing b with
  | nil => simp [Matches.stop]
  | cons x w ih =>
    rw [matches_star_cons_iff]
    constructor
    · rintro ⟨u, v, rfl, hu, hv⟩
      obtain ⟨y, hy, haccepts⟩ := matches_one_iff.1 hu
      obtain ⟨rfl, rfl⟩ := List.cons.inj hy
      simpa [haccepts] using ih.1 hv
    · intro h
      refine ⟨[], w, rfl, matches_one_iff.2 ⟨x, rfl, h x (by simp)⟩, ?_⟩
      exact ih.2 fun y hy => h y (by simp [hy])

/-- One pattern of a sequence after the other. -/
theorem matches_sequence_cons_iff {first : Pattern α} {rest : List (Pattern α)} :
    Matches (sequence (first :: rest)) b w a ↔
      ∃ u v, w = u ++ v ∧ Matches first b u (v.head?.or a) ∧
        Matches (sequence rest) (u.getLast?.or b) v a := by
  cases rest with
  | cons next rest => exact matches_seq_iff
  | nil =>
    show Matches first b w a ↔ _
    constructor
    · intro h
      exact ⟨w, [], by simp, by simpa using h, .empty⟩
    · rintro ⟨u, v, rfl, hu, hv⟩
      obtain rfl := matches_empty_iff.1 hv
      simpa using hu

end Pattern

open Pattern

namespace Marked

/-- Some mark leads to the end of the pattern over a word. -/
def Runs : Marked α → Option α → List α → Option α → Prop
  | empty, _, _, _ => False
  | one mark _, _, w, _ => mark = true ∧ w = []
  | look _, _, _, _ => False
  | seq first second, b, w, a =>
    Runs second b w a ∨ ∃ u v, w = u ++ v ∧ Runs first b u (v.head?.or a) ∧
      Matches second.pattern (u.getLast?.or b) v a
  | alt left right, b, w, a => Runs left b w a ∨ Runs right b w a
  | star body, b, w, a =>
    ∃ u v, w = u ++ v ∧ Runs body b u (v.head?.or a) ∧
      Matches (.star body.pattern) (u.getLast?.or b) v a

theorem skips_iff {m : Marked α} {b a : Option α} :
    m.skips b a = true ↔ Matches m.pattern b [] a := by
  induction m with
  | empty => simp [skips, pattern, matches_empty_iff]
  | one mark accepts => simp [skips, pattern, matches_one_iff]
  | look holds => simp [skips, pattern, matches_look_iff]
  | seq first second ihf ihs => simp [skips, pattern, matches_seq_iff, ihf, ihs, and_assoc]
  | alt left right ihl ihr => simp [skips, pattern, matches_alt_iff, ihl, ihr]
  | star body ih => simpa [skips, pattern] using Matches.stop

theorem finishes_iff {m : Marked α} {b a : Option α} :
    m.finishes b a = true ↔ Runs m b [] a := by
  induction m with
  | empty => simp [finishes, Runs]
  | one mark accepts => simp [finishes, Runs]
  | look holds => simp [finishes, Runs]
  | seq first second ihf ihs => simp [finishes, Runs, ihf, ihs, skips_iff, and_assoc]
  | alt left right ihl ihr => simp [finishes, Runs, ihl, ihr]
  | star body ih => simp [finishes, Runs, ih, and_assoc, Matches.stop]

theorem pattern_advance (m : Marked α) (b : Option α) (x : α) (start : Bool) :
    (m.advance b x start).pattern = m.pattern := by
  induction m generalizing start with
  | seq first second ihf ihs => simp [advance, pattern, ihf, ihs]
  | alt left right ihl ihr => simp [advance, pattern, ihl, ihr]
  | star body ih => simp [advance, pattern, ih]
  | _ => rfl

/-- Splits of a word that come from one of two sources, the second of which may be shut. -/
theorem exists_split_or {start : Bool} {w : List α} {P Q R : List α → List α → Prop} :
    (∃ u v, w = u ++ v ∧ (P u v ∨ start = true ∧ Q u v) ∧ R u v) ↔
      (∃ u v, w = u ++ v ∧ P u v ∧ R u v) ∨
        start = true ∧ ∃ u v, w = u ++ v ∧ Q u v ∧ R u v := by
  constructor
  · rintro ⟨u, v, hw, hP | ⟨hstart, hQ⟩, hR⟩
    · exact .inl ⟨u, v, hw, hP, hR⟩
    · exact .inr ⟨hstart, u, v, hw, hQ, hR⟩
  · rintro (⟨u, v, hw, hP, hR⟩ | ⟨hstart, u, v, hw, hQ, hR⟩)
    · exact ⟨u, v, hw, .inl hP, hR⟩
    · exact ⟨u, v, hw, .inr ⟨hstart, hQ⟩, hR⟩

/-- Consuming a symbol moves the marks past it; with `start`, a match may begin with it. -/
theorem runs_advance {m : Marked α} {b a : Option α} {x : α} {start : Bool} {w : List α} :
    Runs (m.advance b x start) (some x) w a ↔
      Runs m b (x :: w) a ∨ start = true ∧ Matches m.pattern b (x :: w) a := by
  induction m generalizing start w a with
  | empty => simp [advance, Runs, pattern, matches_empty_iff]
  | one mark accepts =>
    simp only [advance, Runs, pattern, matches_one_iff, Bool.and_eq_true]
    constructor
    · rintro ⟨⟨hstart, hx⟩, rfl⟩
      exact .inr ⟨hstart, x, rfl, hx⟩
    · rintro (⟨-, h⟩ | ⟨hstart, y, hy, hx⟩)
      · cases h
      · cases hy
        exact ⟨⟨hstart, hx⟩, rfl⟩
  | look holds => simp [advance, Runs, pattern, matches_look_iff]
  | seq first second ihf ihs =>
    -- the symbol falls into `second`, which may start with it if `first` is done, or into `first`
    simp only [advance, Runs, pattern, pattern_advance, matches_seq_iff, exists_split_cons, ihf, ihs,
      exists_split_or, getLast?_cons_or]
    simp only [Bool.or_eq_true, Bool.and_eq_true, finishes_iff, skips_iff, List.head?_cons,
      Option.some_or, List.getLast?_nil, Option.none_or]
    grind
  | alt left right ihl ihr =>
    simp only [advance, Runs, pattern, matches_alt_iff, ihl, ihr]
    grind
  | star body ih =>
    -- the symbol goes on with the current round, or starts the next one
    simp only [advance, Runs, pattern, pattern_advance, matches_star_cons_iff, exists_split_cons, ih,
      exists_split_or, getLast?_cons_or]
    simp only [Bool.or_eq_true, finishes_iff, List.head?_cons, Option.some_or, List.getLast?_nil,
      Option.none_or]
    grind

/-- Consuming a whole text. -/
theorem completes_iff {m : Marked α} {b : Option α} {start : Bool} {w : List α} :
    m.completes b start w = true ↔
      Runs m b w none ∨ start = true ∧ Matches m.pattern b w none := by
  induction w generalizing m b start with
  | nil => simp [completes, finishes_iff, skips_iff]
  | cons x rest ih => rw [completes, ih, runs_advance]; simp

/-- Searching a text: the marks lead to the end of the pattern, or a match begins somewhere. -/
theorem searches_iff {m : Marked α} {b : Option α} {w : List α} :
    m.searches b w = true ↔
      (∃ u v, w = u ++ v ∧ Runs m b u v.head?) ∨
        ∃ p t, w = p ++ t ∧ ∃ u v, t = u ++ v ∧ Matches m.pattern (p.getLast?.or b) u v.head? := by
  induction w generalizing m b with
  | nil =>
    simp only [searches, Bool.or_eq_true, finishes_iff, skips_iff, List.nil_eq_append_iff, and_assoc,
      exists_and_left, exists_eq_left]
    rfl
  | cons x rest ih =>
    -- a match begins before the symbol, or it begins within the rest
    rw [searches, Bool.or_eq_true, Bool.or_eq_true, ih]
    simp only [runs_advance, pattern_advance, finishes_iff, skips_iff, exists_split_cons,
      getLast?_cons_or, true_and, and_or_left, exists_or, List.head?_cons, List.getLast?_nil,
      Option.none_or]
    grind

end Marked

namespace Pattern

/-! ## Patterns without marks -/

theorem pattern_unmarked (p : Pattern α) : p.unmarked.pattern = p := by
  induction p with
  | seq first second ihf ihs => rw [unmarked, Marked.pattern, ihf, ihs]
  | alt left right ihl ihr => rw [unmarked, Marked.pattern, ihl, ihr]
  | star body ih => rw [unmarked, Marked.pattern, ih]
  | _ => rfl

theorem not_runs_unmarked {p : Pattern α} {b a : Option α} {w : List α} :
    ¬ p.unmarked.Runs b w a := by
  induction p generalizing b w a with
  | seq first second ihf ihs => simp [unmarked, Marked.Runs, ihf, ihs]
  | alt left right ihl ihr => simp [unmarked, Marked.Runs, ihl, ihr]
  | star body ih => simp [unmarked, Marked.Runs, ih]
  | _ => simp [unmarked, Marked.Runs]

/-- `describes` decides whether the whole of a text matches. -/
theorem describes_iff {p : Pattern α} {text : List α} :
    p.describes text = true ↔ Matches p none text none := by
  rw [describes, Marked.completes_iff, pattern_unmarked]
  simp [not_runs_unmarked]

/-- `occursIn` decides whether some part of a text matches. -/
theorem occursIn_iff {p : Pattern α} {text : List α} :
    p.occursIn text = true ↔
      ∃ before word after, text = before ++ (word ++ after) ∧
        Matches p before.getLast? word after.head? := by
  rw [occursIn, Marked.searches_iff, pattern_unmarked]
  simp only [not_runs_unmarked, and_false, exists_false, false_or, Option.or_none]
  constructor
  · rintro ⟨before, _, rfl, word, after, rfl, h⟩
    exact ⟨before, word, after, rfl, h⟩
  · rintro ⟨before, word, after, rfl, h⟩
    exact ⟨before, _, rfl, word, after, rfl, h⟩

end Pattern

end CodeSearch
