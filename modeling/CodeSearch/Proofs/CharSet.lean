import CodeSearch.Unicode.CharSet

/-!
# Members of sets of characters

Membership in a `CharSet` is decided by a binary search.  If the ranges of a set lie one after the
other, the search finds just the code points that some range holds (`CharSet.contains_iff`).
-/

namespace CodeSearch.Unicode

theorem toNat_le_lastCodePoint (c : Char) : c.toNat ≤ 1114111 := by
  rcases c.valid with h | h
  · exact Nat.le_of_lt (Nat.lt_trans h (by decide))
  · exact Nat.le_of_lt_succ h.2

namespace CharSet

/-- The ranges of a set lie one after the other. -/
structure IsSorted (s : CharSet) : Prop where
  /-- The first code point of a range comes before its last one. -/
  le : ∀ range ∈ s.ranges.toList, range.1 ≤ range.2
  /-- Each range ends before the next one starts. -/
  lt : s.ranges.toList.Pairwise fun range next => range.2 < next.1

instance (s : CharSet) : Decidable s.IsSorted :=
  decidable_of_iff ((∀ range ∈ s.ranges.toList, range.1 ≤ range.2) ∧
      s.ranges.toList.Pairwise fun range next => range.2 < next.1)
    ⟨fun h => ⟨h.1, h.2⟩, fun h => ⟨h.le, h.lt⟩⟩

variable {s : CharSet} {range next : Nat × Nat} {i j : Nat}

theorem IsSorted.le_of_getElem? (h : s.IsSorted) (hi : s.ranges[i]? = some range) :
    range.1 ≤ range.2 :=
  h.le range (Array.mem_toList_iff.2 (Array.mem_of_getElem? hi))

/-- A range that does not start after another one stands before it. -/
theorem IsSorted.index_lt_index (h : s.IsSorted) (hi : s.ranges[i]? = some range)
    (hj : s.ranges[j]? = some next) (hle : range.1 ≤ next.2) (hne : range ≠ next) : i < j := by
  rw [← Array.getElem?_toList, List.getElem?_eq_some_iff] at hi hj
  obtain ⟨hi, rfl⟩ := hi
  obtain ⟨hj, rfl⟩ := hj
  rcases Nat.lt_trichotomy i j with hlt | rfl | hgt
  · exact hlt
  · exact absurd rfl hne
  · have hapart := List.pairwise_iff_getElem.1 h.lt j i hj hi hgt
    omega

/-- With as many steps as there are ranges, the search finds the range that holds a code point. -/
theorem search_iff (h : s.IsSorted) {n steps low high : Nat} (hsteps : high - low ≤ steps)
    (hhigh : high ≤ s.ranges.size) :
    search s.ranges n steps low high = true ↔
      ∃ i range, low ≤ i ∧ i < high ∧ s.ranges[i]? = some range ∧ range.1 ≤ n ∧ n ≤ range.2 := by
  have hempty {low high : Nat} (hle : high ≤ low) : ¬ ∃ i range, low ≤ i ∧ i < high ∧
      s.ranges[i]? = some range ∧ range.1 ≤ n ∧ n ≤ range.2 := by
    rintro ⟨i, range, hlow, hi, -⟩
    omega
  induction steps generalizing low high with
  | zero => exact iff_of_false Bool.false_ne_true (hempty (by omega))
  | succ steps ih =>
    rw [search]
    split
    · rename_i hlt
      obtain ⟨middle, hmiddle⟩ : ∃ middle, s.ranges[(low + high) / 2]? = some middle :=
        ⟨_, Array.getElem?_eq_getElem (by omega)⟩
      have hle := h.le_of_getElem? hmiddle
      dsimp only
      rw [hmiddle]
      dsimp only
      split
      · -- ranges after the one in the middle start even later
        refine (ih (by omega) (by omega)).trans ?_
        constructor
        · rintro ⟨i, range, hlow, hi, hholds⟩
          exact ⟨i, range, hlow, by omega, hholds⟩
        · rintro ⟨i, range, hlow, -, hrange, hholds⟩
          have hi := h.index_lt_index hrange hmiddle (by omega) (by rintro rfl; omega)
          exact ⟨i, range, hlow, hi, hrange, hholds⟩
      · split
        · -- ranges before the one in the middle end even earlier
          refine (ih (by omega) hhigh).trans ?_
          constructor
          · rintro ⟨i, range, hlow, hi, hholds⟩
            exact ⟨i, range, by omega, hi, hholds⟩
          · rintro ⟨i, range, -, hi, hrange, hholds⟩
            have hlow := h.index_lt_index hmiddle hrange (by omega) (by rintro rfl; omega)
            exact ⟨i, range, hlow, hi, hrange, hholds⟩
        · exact iff_of_true rfl ⟨_, middle, by omega, by omega, hmiddle, by omega, by omega⟩
    · exact iff_of_false Bool.false_ne_true (hempty (by omega))

/-- A character is a member of a set if some range of the set holds its code point. -/
theorem contains_iff (h : s.IsSorted) {c : Char} :
    s.contains c = true ↔ ∃ range ∈ s.ranges.toList, range.1 ≤ c.toNat ∧ c.toNat ≤ range.2 := by
  rw [contains, has, search_iff h (Nat.sub_le _ _) (Nat.le_refl _)]
  constructor
  · rintro ⟨i, range, -, -, hrange, hholds⟩
    exact ⟨range, Array.mem_toList_iff.2 (Array.mem_of_getElem? hrange), hholds⟩
  · rintro ⟨range, hmem, hholds⟩
    obtain ⟨i, hi, rfl⟩ := Array.mem_iff_getElem.1 (Array.mem_toList_iff.1 hmem)
    exact ⟨i, _, Nat.zero_le i, hi, Array.getElem?_eq_getElem hi, hholds⟩

end CharSet

end CodeSearch.Unicode
