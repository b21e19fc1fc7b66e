import CodeSearch.Proofs.Decimal.Shortest
import CodeSearch.Proofs.Json.Parts
import CodeSearch.Proofs.Json.RoundTrip

/-!
# Values on one line

`Json.compact` writes every value without a control character, whatever texts are in it
(`noControl_compact`): strings have theirs escaped, and numbers have none.  So a value stands on one
line.
-/

namespace CodeSearch.Json

open Decimal (Binary64 Numeral Style)

/-- No character comes before the space. -/
def NoControl (chars : List Char) : Prop := ∀ c ∈ chars, ' ' ≤ c

instance (chars : List Char) : Decidable (NoControl chars) :=
  List.decidableBAll (' ' ≤ ·) chars

@[simp] theorem noControl_nil : NoControl [] := List.forall_mem_nil _

@[simp] theorem noControl_cons {c : Char} {chars : List Char} :
    NoControl (c :: chars) ↔ ' ' ≤ c ∧ NoControl chars := List.forall_mem_cons

@[simp] theorem noControl_append {first last : List Char} :
    NoControl (first ++ last) ↔ NoControl first ∧ NoControl last := List.forall_mem_append

theorem noControl_flatMap {α : Type} {write : α → List Char} {items : List α}
    (h : ∀ item ∈ items, NoControl (write item)) : NoControl (items.flatMap write) := by
  intro c hc
  obtain ⟨item, hitem, hmem⟩ := List.mem_flatMap.mp hc
  exact h item hitem c hmem

theorem noControl_of_isDigit {chars : List Char} (h : ∀ c ∈ chars, c.isDigit = true) :
    NoControl chars := by
  intro c hc
  have hdigit := h c hc
  rw [Char.isDigit, Bool.and_eq_true, decide_eq_true_eq] at hdigit
  exact Char.le_trans (b := '0') (by decide) hdigit.1

/-- No character is written with a control character, not even a control character. -/
theorem noControl_escapedChar (c : Char) : NoControl (escapedChar c) := by
  have hescape : ∀ n < 32, NoControl
      ['\\', 'u', '0', '0', Nat.digitChar (n / 16), Nat.digitChar (n % 16)] := by decide
  unfold escapedChar
  split
  case h_8 =>
    split
    case isTrue hc => exact hescape c.toNat hc
    case isFalse hc => exact noControl_cons.mpr ⟨Char.not_lt.mp hc, noControl_nil⟩
  all_goals simp only [noControl_cons, noControl_nil, and_true]; decide

theorem noControl_stringChars (text : String) : NoControl (stringChars text) := by
  have hchars := noControl_flatMap fun c (_ : c ∈ text.toList) => noControl_escapedChar c
  simp [stringChars, hchars]

theorem noControl_toDigits (n : ℕ) : NoControl (Nat.toDigits 10 n) :=
  noControl_of_isDigit fun _ hc => Nat.isDigit_of_mem_toDigits (by decide) (by decide) hc

theorem noControl_numeral {n : Numeral} (h : n.WellFormed) : NoControl n.chars := by
  have hfraction : NoControl n.fractionChars := by
    rw [Numeral.fractionChars]
    split
    case isTrue => exact noControl_nil
    case isFalse => exact noControl_cons.mpr ⟨by decide, noControl_of_isDigit h.isDigit_fraction⟩
  have hexponent : NoControl n.exponentChars := by
    rw [Numeral.exponentChars]
    split
    case h_1 => exact noControl_nil
    case h_2 e _ =>
      refine noControl_cons.mpr ⟨by decide, noControl_cons.mpr ⟨?_, noControl_toDigits e.natAbs⟩⟩
      split <;> decide
  rw [Numeral.chars, noControl_append, noControl_append]
  exact ⟨⟨noControl_of_isDigit h.isDigit_whole, hfraction⟩, hexponent⟩

theorem noControl_number (n : Number) : NoControl n.text.toList := by
  cases n with
  | int n =>
    cases n with
    | ofNat n =>
      rw [text_ofNat]
      exact noControl_toDigits n
    | negSucc n =>
      rw [text_negSucc, noControl_cons]
      exact ⟨by decide, noControl_toDigits (n + 1)⟩
  | float x =>
    rw [Number.text]
    rcases x.significand.eq_zero_or_pos with hzero | hpos
    · rw [Style.write, if_pos hzero]
      cases x.negative <;> decide
    · obtain ⟨n, hwellFormed, -, -, hchars⟩ := Style.exists_numeral_write hpos
      rw [hchars, noControl_append]
      refine ⟨?_, noControl_numeral hwellFormed⟩
      cases x.negative <;> decide

theorem noControl_commas {texts : List (List Char)} (h : ∀ text ∈ texts, NoControl text) :
    NoControl (commas texts) := by
  cases texts with
  | nil => exact noControl_nil
  | cons text texts =>
    obtain ⟨htext, htexts⟩ := List.forall_mem_cons.mp h
    refine noControl_append.mpr ⟨htext, noControl_flatMap fun other hother => ?_⟩
    exact noControl_cons.mpr ⟨by decide, htexts other hother⟩

/-- A value is written without control characters. -/
theorem noControl_compactChars (value : Json) : NoControl value.compactChars := by
  induction value using inductionOnParts with
  | null => decide
  | bool value => cases value <;> decide
  | number n =>
    rw [compactChars_number]
    exact noControl_number n
  | string text =>
    rw [compactChars_string]
    exact noControl_stringChars text
  | array items ih =>
    have hvalues : NoControl (compactChars.values items) := by
      rw [values_eq_commas]
      exact noControl_commas (List.forall_mem_map.mpr ih)
    simp only [compactChars, noControl_cons, noControl_append, hvalues, noControl_nil]
    decide
  | object members ih =>
    have hmember : ∀ m ∈ members, NoControl (memberChars [] (onOneLine m)) := by
      intro m hm
      rw [memberChars, List.nil_append, noControl_append, noControl_cons]
      exact ⟨noControl_stringChars m.1, by decide, ih m hm⟩
    have hfields : NoControl (compactChars.fields members) := by
      rw [fields_eq_commas, List.map_map]
      exact noControl_commas (List.forall_mem_map.mpr hmember)
    simp only [compactChars, noControl_cons, noControl_append, hfields, noControl_nil]
    decide

theorem noControl_compact (value : Json) : NoControl value.compact.toList := by
  rw [compact, String.toList_ofList]
  exact noControl_compactChars value

theorem no_lineFeed_compact (value : Json) : '\n' ∉ value.compact.toList := fun h =>
  absurd (noControl_compact value _ h) (by decide)

end CodeSearch.Json
