/-!
# Cutting texts and finding texts inside texts

Two elementary operations on texts.  `pieces` cuts a text at every character of a class, so that a
text with `n` cuts has `n + 1` pieces, empty ones included.  `occursIn` is the literal substring
test; `occursIn_iff` says that it decides `needle <:+: text`.
-/

namespace CodeSearch.Text

variable {α : Type}

/-- The runs of `text` between the elements where `cut` holds, empty runs included. -/
def splitWhere (cut : α → Bool) : List α → List (List α)
  | [] => [[]]
  | a :: rest =>
    if cut a then [] :: splitWhere cut rest
    else match splitWhere cut rest with
      | [] => [[a]]
      | run :: runs => (a :: run) :: runs

/-- The parts of `text` between the characters where `cut` holds. -/
def pieces (cut : Char → Bool) (text : String) : List String :=
  (splitWhere cut text.toList).map String.ofList

/-- The `/`-separated segments of a path text, empty segments included. -/
def segments (path : String) : List String := pieces (· == '/') path

/-- Whether `needle` stands somewhere in a list. -/
def occursIn [BEq α] (needle : List α) : List α → Bool
  | [] => needle.isEmpty
  | a :: rest => needle.isPrefixOf (a :: rest) || occursIn needle rest

theorem splitWhere_ne_nil (cut : α → Bool) (text : List α) : splitWhere cut text ≠ [] := by
  cases text with
  | nil => simp [splitWhere]
  | cons a rest =>
    simp only [splitWhere]
    split
    · simp
    · split <;> simp

/-- A text without a cut is its own only piece. -/
theorem splitWhere_eq_singleton {cut : α → Bool} {text : List α} (h : ∀ a ∈ text, cut a = false) :
    splitWhere cut text = [text] := by
  induction text with
  | nil => rfl
  | cons a rest ih =>
    simp [splitWhere, h a (by simp), ih fun b hb => h b (by simp [hb])]

/-- Cutting `first ++ a :: rest` at an `a` that is the first cut. -/
theorem splitWhere_append {cut : α → Bool} {first : List α} (h : ∀ a ∈ first, cut a = false)
    {a : α} (ha : cut a = true) (rest : List α) :
    splitWhere cut (first ++ a :: rest) = first :: splitWhere cut rest := by
  induction first with
  | nil => simp [splitWhere, ha]
  | cons b first ih =>
    simp [splitWhere, h b (by simp), ih fun c hc => h c (by simp [hc])]

/-- No piece holds a cut. -/
theorem cut_eq_false_of_mem {cut : α → Bool} {text piece : List α} (h : piece ∈ splitWhere cut text)
    {a : α} (ha : a ∈ piece) : cut a = false := by
  induction text generalizing piece with
  | nil => simp [splitWhere] at h; simp [h] at ha
  | cons b rest ih =>
    simp only [splitWhere] at h
    split at h
    · rcases List.mem_cons.1 h with rfl | h
      · simp at ha
      · exact ih h ha
    · rename_i hb
      split at h
      · simp at h; subst h; simp at ha; simpa [ha] using hb
      · rename_i run runs hsplit
        rcases List.mem_cons.1 h with rfl | h
        · rcases List.mem_cons.1 ha with rfl | ha
          · simpa using hb
          · exact ih (by rw [hsplit]; simp) ha
        · exact ih (by rw [hsplit]; simp [h]) ha

theorem occursIn_iff [BEq α] [LawfulBEq α] {needle text : List α} :
    occursIn needle text = true ↔ needle <:+: text := by
  induction text with
  | nil => simp [occursIn]
  | cons a rest ih => simp [occursIn, ih, List.infix_cons_iff]

end CodeSearch.Text
