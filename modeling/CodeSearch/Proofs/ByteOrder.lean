import CodeSearch.Text.Os

/-!
# Texts in the order of their bytes

File systems and walks compare names as bytes.  UTF-8 keeps the order of the characters: of two
characters, the greater one has the greater encoding, and neither encoding continues the other
(`utf8EncodeChar_append_lt`).  So texts that are in order by their characters are in order by their
bytes (`utf8Bytes_lt`).
-/

namespace CodeSearch

theorem ofNat_lt_ofNat_iff {m n : Nat} (hm : m < 256) (hn : n < 256) :
    UInt8.ofNat m < UInt8.ofNat n ↔ m < n := by
  rw [UInt8.lt_iff_toNat_lt, UInt8.toNat_ofNat', UInt8.toNat_ofNat', Nat.mod_eq_of_lt hm,
    Nat.mod_eq_of_lt hn]

theorem ofNat_eq_ofNat_iff {m n : Nat} (hm : m < 256) (hn : n < 256) :
    UInt8.ofNat m = UInt8.ofNat n ↔ m = n := by
  rw [← UInt8.toNat_inj, UInt8.toNat_ofNat', UInt8.toNat_ofNat', Nat.mod_eq_of_lt hm,
    Nat.mod_eq_of_lt hn]

/-- The encodings of one to four bytes, with the code points that they are for. -/
theorem utf8EncodeChar_cases (c : Char) :
    (c.toNat < 0x80 ∧ String.utf8EncodeChar c = [.ofNat c.toNat]) ∨
    (0x80 ≤ c.toNat ∧ c.toNat < 0x800 ∧ String.utf8EncodeChar c =
      [.ofNat (c.toNat / 64 % 0x20 + 0xc0), .ofNat (c.toNat % 64 + 0x80)]) ∨
    (0x800 ≤ c.toNat ∧ c.toNat < 0x10000 ∧ String.utf8EncodeChar c =
      [.ofNat (c.toNat / 4096 % 0x10 + 0xe0), .ofNat (c.toNat / 64 % 64 + 0x80),
        .ofNat (c.toNat % 64 + 0x80)]) ∨
    (0x10000 ≤ c.toNat ∧ c.toNat < 0x110000 ∧ String.utf8EncodeChar c =
      [.ofNat (c.toNat / 262144 % 0x08 + 0xf0), .ofNat (c.toNat / 4096 % 64 + 0x80),
        .ofNat (c.toNat / 64 % 64 + 0x80), .ofNat (c.toNat % 64 + 0x80)]) := by
  have hvalid : c.toNat < 0x110000 := by
    rcases c.valid with h | h
    · exact Nat.lt_trans h (by decide)
    · exact h.2
  unfold String.utf8EncodeChar
  show _ ∨ _
  dsimp only
  by_cases h1 : c.toNat ≤ 0x7f
  · exact .inl ⟨by omega, if_pos h1⟩
  · by_cases h2 : c.toNat ≤ 0x7ff
    · refine .inr (.inl ⟨by omega, by omega, ?_⟩)
      exact (if_neg h1).trans (if_pos h2)
    · by_cases h3 : c.toNat ≤ 0xffff
      · refine .inr (.inr (.inl ⟨by omega, by omega, ?_⟩))
        exact (if_neg h1).trans ((if_neg h2).trans (if_pos h3))
      · refine .inr (.inr (.inr ⟨by omega, hvalid, ?_⟩))
        exact (if_neg h1).trans ((if_neg h2).trans (if_neg h3))

/-- The order of two numbers is that of their digits. -/
theorem digit_lt_or {m n : Nat} (h : m < n) :
    m / 64 < n / 64 ∨ m / 64 = n / 64 ∧ m % 64 < n % 64 := by
  omega

/-- The encodings of two characters compare like the characters, whatever follows. -/
theorem utf8EncodeChar_append_lt {c d : Char} (h : c < d) (s t : List UInt8) :
    String.utf8EncodeChar c ++ s < String.utf8EncodeChar d ++ t := by
  have hlt : c.toNat < d.toNat := h
  have hlow := digit_lt_or hlt
  have hmiddle (hm : c.toNat / 64 < d.toNat / 64) := digit_lt_or hm
  have hhigh (hm : c.toNat / 64 / 64 < d.toNat / 64 / 64) := digit_lt_or hm
  simp only [Nat.div_div_eq_div_mul] at hmiddle hhigh
  rcases utf8EncodeChar_cases c with ⟨hc, heq⟩ | ⟨hc, hc', heq⟩ | ⟨hc, hc', heq⟩ | ⟨hc, hc', heq⟩ <;>
    rcases utf8EncodeChar_cases d with
      ⟨hd, heq'⟩ | ⟨hd, hd', heq'⟩ | ⟨hd, hd', heq'⟩ | ⟨hd, hd', heq'⟩ <;>
    rw [heq, heq'] <;>
    simp (disch := omega) only [List.cons_append, List.nil_append, List.cons_lt_cons_iff,
      ofNat_lt_ofNat_iff, ofNat_eq_ofNat_iff]
  -- where the lengths differ, or there is a single byte, the first bytes decide
  case inl.inl | inl.inr.inl | inl.inr.inr.inl | inl.inr.inr.inr => exact .inl (by omega)
  case inr.inl.inl | inr.inr.inl.inl | inr.inr.inr.inl => omega
  case inr.inr.inl.inr.inl | inr.inr.inr.inr.inl | inr.inr.inr.inr.inr.inl => omega
  case inr.inl.inr.inr.inl | inr.inl.inr.inr.inr | inr.inr.inl.inr.inr.inr => exact .inl (by omega)
  -- where the lengths agree, the first digit that differs decides
  case inr.inl.inr.inl =>
    rcases hlow with h1 | ⟨h1, h0⟩
    · exact .inl (by omega)
    · exact .inr ⟨by omega, .inl (by omega)⟩
  case inr.inr.inl.inr.inr.inl =>
    rcases hlow with h1 | ⟨h1, h0⟩
    · rcases hmiddle h1 with h2 | ⟨h2, h1⟩
      · exact .inl (by omega)
      · exact .inr ⟨by omega, .inl (by omega)⟩
    · exact .inr ⟨by omega, .inr ⟨by omega, .inl (by omega)⟩⟩
  case inr.inr.inr.inr.inr.inr =>
    rcases hlow with h1 | ⟨h1, h0⟩
    · rcases hmiddle h1 with h2 | ⟨h2, h1⟩
      · rcases hhigh h2 with h3 | ⟨h3, h2⟩
        · exact .inl (by omega)
        · exact .inr ⟨by omega, .inl (by omega)⟩
      · exact .inr ⟨by omega, .inr ⟨by omega, .inl (by omega)⟩⟩
    · exact .inr ⟨by omega, .inr ⟨by omega, .inr ⟨by omega, .inl (by omega)⟩⟩⟩

/-- The order of the characters is that of the bytes. -/
theorem flatMap_utf8EncodeChar_lt {s t : List Char} (h : s < t) :
    s.flatMap String.utf8EncodeChar < t.flatMap String.utf8EncodeChar := by
  induction s generalizing t with
  | nil =>
    cases t with
    | nil => exact absurd h (List.not_lt_nil _)
    | cons d t =>
      rw [List.flatMap_nil, List.flatMap_cons]
      rcases utf8EncodeChar_cases d with ⟨-, heq⟩ | ⟨-, -, heq⟩ | ⟨-, -, heq⟩ | ⟨-, -, heq⟩ <;>
        rw [heq] <;> exact List.nil_lt_cons _ _
  | cons c s ih =>
    cases t with
    | nil => exact absurd h (List.not_lt_nil _)
    | cons d t =>
      rw [List.flatMap_cons, List.flatMap_cons]
      rcases List.cons_lt_cons_iff.1 h with hlt | ⟨rfl, hlt⟩
      · exact utf8EncodeChar_append_lt hlt _ _
      · exact List.append_left_lt (ih hlt)

/-- A text that comes first comes first by its bytes. -/
theorem utf8Bytes_lt {s t : String} (h : s < t) : utf8Bytes s < utf8Bytes t :=
  flatMap_utf8EncodeChar_lt (String.lt_iff.1 h)

end CodeSearch
