import CodeSearch.Proofs.Regex
import CodeSearch.Regex.Parser

/-!
# Texts in regular expressions

`Regex.escape` puts a backslash before each character with a meaning of its own, so that a text stands
for itself in a regular expression.  Reading an escaped text takes one step for each character and adds
that character to the parts read before (`Expr.rest?_escape`): an escaped text opens no group, repeats
nothing, and its first character is not taken for the mark of a lazy repetition (`dropLazy_escape`).
-/

namespace CodeSearch.Regex

/-- A character in an expression, escaped where it has to be. -/
def escapeChar (c : Char) : List Char := if isMeta c then ['\\', c] else [c]

/-- A text as an expression that stands for it. -/
def escape (text : String) : String := String.ofList (text.toList.flatMap escapeChar)

theorem toList_escape (text : String) : (escape text).toList = text.toList.flatMap escapeChar := by
  rw [escape, String.toList_ofList]

/-- A character as a written expression. -/
def Expr.ofChar (c : Char) : Expr := .literal ⟨c, false⟩

/-- An escaped character starts with a backslash or has no meaning of its own. -/
theorem eq_backslash_or_of_escapeChar {c d : Char} {rest text : List Char}
    (h : escapeChar c ++ rest = d :: text) : d = '\\' ∨ isMeta d = false := by
  unfold escapeChar at h
  split at h
  · exact .inl (List.cons.inj h).1.symm
  · rename_i hmeta
    exact .inr ((List.cons.inj h).1 ▸ Bool.eq_false_iff.2 hmeta)

theorem length_le_length_escape (chars : List Char) :
    chars.length ≤ (chars.flatMap escapeChar).length := by
  induction chars with
  | nil => exact Nat.le_refl _
  | cons c chars ih =>
    have hpos : 1 ≤ (escapeChar c).length := by
      unfold escapeChar
      split <;> simp
    rw [List.flatMap_cons, List.length_append, List.length_cons]
    omega

/-- A repetition before an escaped text stays as greedy as it is. -/
theorem dropLazy_escape (chars : List Char) :
    dropLazy (chars.flatMap escapeChar) = chars.flatMap escapeChar := by
  cases chars with
  | nil => rfl
  | cons c chars =>
    rw [List.flatMap_cons]
    unfold dropLazy
    split
    · rename_i hhead
      exact absurd (eq_backslash_or_of_escapeChar hhead) (by decide)
    · rfl

/-! ## Reading escaped texts -/

theorem escape?_of_isMeta {c : Char} (h : isMeta c = true) (verbose : Bool) (rest : List Char) :
    escape? verbose (c :: rest) = some (.literal ⟨c, false⟩, rest) := by
  have hmeta : isMeta c = true ↔ c ∈ ['\\', '.', '+', '*', '?', '(', ')', '|', '[', ']', '\x7b', '\x7d',
      '^', '$', '#', '&', '-', '~'] := List.contains_iff_mem
  simp only [hmeta, List.mem_cons, List.not_mem_nil, or_false] at h
  rcases h with rfl | rfl | rfl | rfl | rfl | rfl | rfl | rfl | rfl | rfl | rfl | rfl | rfl | rfl |
    rfl | rfl | rfl | rfl <;> rfl

namespace Expr

theorem atom?_escapeChar (c : Char) (rest : List Char) :
    atom? false (escapeChar c ++ rest) = some (.literal ⟨c, false⟩, rest) := by
  unfold escapeChar
  split
  · rename_i hmeta
    exact escape?_of_isMeta hmeta false rest
  · rename_i hplain
    -- no character that `atom?` singles out is left
    rw [List.singleton_append]
    unfold atom?
    split
    case h_1 hnil => cases hnil
    case h_6 hcons => rw [← (List.cons.inj hcons).1, ← (List.cons.inj hcons).2]
    all_goals
      rename_i hcons
      rw [(List.cons.inj hcons).1] at hplain
      exact absurd rfl hplain

section Steps

variable (steps : Nat) (names : List String) (stack : List Expr.Frame) (branches parts : List Expr)

/-- An escaped character is one part. -/
theorem rest?_escapeChar (c : Char) (rest : List Char) :
    rest? (steps + 1) false names stack branches parts (escapeChar c ++ rest) =
      rest? steps false names stack branches (ofChar c :: parts) rest := by
  have hsignificant : significant false (escapeChar c ++ rest) = escapeChar c ++ rest := rfl
  rw [rest?, hsignificant]
  dsimp only
  split
  case h_1 hnil =>
    unfold escapeChar at hnil
    split at hnil <;> cases hnil
  case h_10 =>
    rw [atom?_escapeChar]
    rfl
  all_goals
    rename_i hhead
    exact absurd (eq_backslash_or_of_escapeChar hhead) (by decide)

/-- The characters of an escaped text are parts one after the other. -/
theorem rest?_escape (chars rest : List Char) :
    rest? (steps + chars.length) false names stack branches parts
        (chars.flatMap escapeChar ++ rest) =
      rest? steps false names stack branches ((chars.map ofChar).reverse ++ parts) rest := by
  induction chars generalizing parts with
  | nil => rfl
  | cons c chars ih =>
    rw [List.flatMap_cons, List.append_assoc, List.length_cons, ← Nat.add_assoc, rest?_escapeChar, ih,
      List.map_cons, List.reverse_cons, List.append_assoc, List.singleton_append]

/-- Outside of all groups, an expression may end with an escaped text. -/
theorem rest?_escape_end (chars : List Char) :
    rest? (steps + 1 + chars.length) false names [] branches parts (chars.flatMap escapeChar) =
      some (ofBranches (ofParts ((chars.map ofChar).reverse ++ parts) :: branches)) := by
  have hread := rest?_escape (steps + 1) names [] branches parts chars []
  rw [List.append_nil] at hread
  rw [hread, rest?]
  rfl

/-- A class is one part. -/
theorem rest?_class {text rest : List Char} {contents : ClassExpr}
    (h : ClassExpr.parse? false text = some (contents, rest)) :
    rest? (steps + 1) false names stack branches parts ('[' :: text) =
      rest? steps false names stack branches (.set contents :: parts) rest := by
  rw [rest?]
  show (ClassExpr.parse? false text).bind _ = _
  rw [h]
  rfl

/-- A star repeats the part before it. -/
theorem rest?_star {last : Expr} (h : last.isRepeatable = true) (rest : List Char) :
    rest? (steps + 1) false names stack branches (last :: parts) ('*' :: rest) =
      rest? steps false names stack branches (.repetition last 0 none :: parts) (dropLazy rest) := by
  rw [rest?]
  exact if_pos h

end Steps

/-- Parts stand one after the other if there are at least two of them. -/
theorem ofParts_eq_concat {parts : List Expr} (h : 2 ≤ parts.length) :
    ofParts parts = .concat parts.reverse := by
  unfold ofParts
  split
  · simp at h
  · simp at h
  · rfl

theorem depth_concat_le {parts : List Expr} {n : Nat} (h : ∀ part ∈ parts, part.depth ≤ n) :
    (Expr.concat parts).depth ≤ n + 1 := by
  rw [depth, Nat.add_le_add_iff_right]
  induction parts with
  | nil => exact Nat.zero_le n
  | cons part rest ih =>
    obtain ⟨hpart, hrest⟩ := List.forall_mem_cons.1 h
    exact Nat.max_le.2 ⟨hpart, ih hrest⟩

end Expr

/-! ## What escaped texts stand for -/

/-- Written parts stand for some expressions, and leave all flags as they are at first. -/
def StandFor (exprs : List Expr) (parts : List Regex) : Prop :=
  interpret?.all {} exprs = some (parts, {})

namespace StandFor

variable {exprs : List Expr} {parts : List Regex}

theorem nil : StandFor [] [] := rfl

theorem cons {expr : Expr} {part : Regex} (hpart : interpret? {} expr = some (part, {}))
    (h : StandFor exprs parts) : StandFor (expr :: exprs) (part :: parts) := by
  unfold StandFor at h ⊢
  rw [interpret?.all, hpart]
  simp [h]

/-- Characters stand for themselves. -/
theorem chars (h : StandFor exprs parts) (chars : List Char) :
    StandFor (chars.map Expr.ofChar ++ exprs) (chars.map .char ++ parts) := by
  induction chars with
  | nil => exact h
  | cons c chars ih => exact ih.cons rfl

theorem ofExpr?_eq (h : StandFor exprs parts) : ofExpr? (.concat exprs) = some (.concat parts) := by
  unfold StandFor at h
  unfold ofExpr?
  rw [interpret?, h]
  rfl

end StandFor

end CodeSearch.Regex
