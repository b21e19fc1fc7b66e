import CodeSearch.Proofs.Text
import CodeSearch.Proofs.Utf8
import CodeSearch.Text.Os

/-!
# Texts of the operating system and texts

A text is read back from its UTF-8 form (`lossy_ofText`), so the bytes that are UTF-8 are the forms of
texts (`isUtf8_iff`), each of a single one.  What is left of other bytes has no character of ASCII but
those that stand there as single bytes (`mem_bytes_of_mem_lossy`).
-/

namespace CodeSearch.OsText

theorem toNat_ofNat {n : Nat} (h : n < 256) : (UInt8.ofNat n).toNat = n := by
  rw [UInt8.toNat_ofNat', Nat.mod_eq_of_lt h]

/-! ## Encoded characters -/

/-- The bytes of a code point after the first one. -/
def tailBytes (code : Nat) : Nat → List UInt8
  | 0 => []
  | n + 1 => .ofNat (code / 0x40 ^ n % 0x40 + 0x80) :: tailBytes code n

/-- The bytes that are owed complete a character. -/
theorem decodeFrom_tailBytes {begun : Begun} {n : Nat} (howed : begun.owed = n + 1) {code : Nat}
    (hlow : begun.low ≤ code / 0x40 ^ n % 0x40 + 0x80)
    (hhigh : code / 0x40 ^ n % 0x40 + 0x80 ≤ begun.high) (rest : List UInt8) :
    decodeFrom (some begun) (tailBytes code (n + 1) ++ rest) =
      Char.ofNat (begun.code + (code / 0x40 ^ n % 0x40 + 0x80 - begun.low) * 0x40 ^ n +
        code % 0x40 ^ n) :: decodeFrom none rest := by
  induction n generalizing begun with
  | zero =>
    rw [tailBytes, List.cons_append, decodeFrom, toNat_ofNat (by omega), nextByte,
      if_pos ⟨hlow, hhigh⟩, if_pos howed, Nat.pow_zero, Nat.mod_one]
    simp [Begun.next, howed, tailBytes]
  | succ n ih =>
    -- the next byte is owed to a character whose code point is known better
    have hnext : (begun.next (code / 0x40 ^ (n + 1) % 0x40 + 0x80)).owed = n + 1 := by
      simp only [Begun.next, howed, Nat.add_sub_cancel]
    have hdigits : code % 0x40 ^ (n + 1) =
        code % 0x40 ^ n + 0x40 ^ n * (code / 0x40 ^ n % 0x40) := Nat.mod_pow_succ
    rw [tailBytes, List.cons_append, decodeFrom, toNat_ofNat (by omega), nextByte,
      if_pos ⟨hlow, hhigh⟩, if_neg (by omega), List.nil_append,
      ih hnext (Nat.le_add_left ..) (show _ ≤ 0xbf by omega)]
    simp only [Begun.next, Nat.pow_eq, howed, Nat.add_sub_cancel, hdigits, Nat.mul_comm (_ % 0x40)]
    congr 2
    omega

/-- A number is the first byte of a code point that is written in `n + 2` bytes. -/
structure Begun.IsFirst (first code n : Nat) (begun : Begun) : Prop where
  ge : 0x80 ≤ first
  lt : first < 256
  begins : Begun.ofByte? first = some begun
  owed : begun.owed = n + 1
  low : begun.low ≤ code / 0x40 ^ n % 0x40 + 0x80
  high : code / 0x40 ^ n % 0x40 + 0x80 ≤ begun.high
  code : begun.code + (code / 0x40 ^ n % 0x40 + 0x80 - begun.low) * 0x40 ^ n + code % 0x40 ^ n = code

theorem Begun.IsFirst.decodeFrom_eq {first n : Nat} {c : Char} {begun : Begun}
    (h : begun.IsFirst first c.toNat n) (rest : List UInt8) :
    decodeFrom none (.ofNat first :: (tailBytes c.toNat (n + 1) ++ rest)) =
      c :: decodeFrom none rest := by
  rw [decodeFrom, toNat_ofNat h.lt, nextByte, firstByte, if_neg (Nat.not_lt.mpr h.ge), h.begins,
    List.nil_append, decodeFrom_tailBytes h.owed h.low h.high, h.code, Char.ofNat_toNat]

/-- Code points of two bytes. -/
theorem exists_isFirst_two {code : Nat} (hlow : 0x80 ≤ code) (hhigh : code < 0x800) :
    ∃ begun : Begun, begun.IsFirst (code / 64 % 0x20 + 0xc0) code 0 := by
  refine ⟨⟨1, 0x80, 0xbf, 0x80 + (code / 64 % 0x20 + 0xc0 - 0xc2) * 0x40, by omega⟩,
    by omega, by omega, if_pos (by omega), rfl, ?_, ?_, ?_⟩
  all_goals
    dsimp only
    omega

/-- Code points of three bytes. -/
theorem exists_isFirst_three {code : Nat} (hlow : 0x800 ≤ code) (hhigh : code < 0x10000)
    (hvalid : code < 0xd800 ∨ 0xdfff < code) :
    ∃ begun : Begun, begun.IsFirst (code / 4096 % 0x10 + 0xe0) code 1 := by
  have hfew : ¬ (0xc2 ≤ code / 4096 % 0x10 + 0xe0 ∧ code / 4096 % 0x10 + 0xe0 ≤ 0xdf) := by omega
  -- behind `0xe0` there is no second byte that two bytes would do for, and behind `0xed` no surrogate
  by_cases hleast : code / 4096 % 0x10 + 0xe0 = 0xe0
  · refine ⟨⟨2, 0xa0, 0xbf, 0x800, by decide⟩, by omega, by omega, ?_, rfl, ?_, ?_, ?_⟩
    · rw [Begun.ofByte?, if_neg hfew, if_pos hleast]
    all_goals
      dsimp only
      omega
  · refine ⟨⟨2, 0x80, if code / 4096 % 0x10 + 0xe0 = 0xed then 0x9f else 0xbf,
      0x1000 + (code / 4096 % 0x10 + 0xe0 - 0xe1) * 0x1000, by omega⟩,
      by omega, by omega, ?_, rfl, ?_, ?_, ?_⟩
    · rw [Begun.ofByte?, if_neg hfew, if_neg hleast, if_pos (by omega)]
    · dsimp only
      omega
    · dsimp only
      split <;> omega
    · dsimp only
      omega

/-- Code points of four bytes. -/
theorem exists_isFirst_four {code : Nat} (hlow : 0x10000 ≤ code) (hhigh : code < 0x110000) :
    ∃ begun : Begun, begun.IsFirst (code / 262144 % 0x08 + 0xf0) code 2 := by
  have hfew : ¬ (0xc2 ≤ code / 262144 % 0x08 + 0xf0 ∧ code / 262144 % 0x08 + 0xf0 ≤ 0xdf) ∧
      ¬ code / 262144 % 0x08 + 0xf0 = 0xe0 ∧
      ¬ (0xe1 ≤ code / 262144 % 0x08 + 0xf0 ∧ code / 262144 % 0x08 + 0xf0 ≤ 0xef) := by omega
  -- behind `0xf0` there is no second byte that three bytes would do for, and `0xf4` ends the code points
  by_cases hleast : code / 262144 % 0x08 + 0xf0 = 0xf0
  · refine ⟨⟨3, 0x90, 0xbf, 0x10000, by decide⟩, by omega, by omega, ?_, rfl, ?_, ?_, ?_⟩
    · rw [Begun.ofByte?, if_neg hfew.1, if_neg hfew.2.1, if_neg hfew.2.2, if_pos hleast]
    all_goals
      dsimp only
      omega
  · refine ⟨⟨3, 0x80, if code / 262144 % 0x08 + 0xf0 = 0xf4 then 0x8f else 0xbf,
      0x40000 + (code / 262144 % 0x08 + 0xf0 - 0xf1) * 0x40000, by omega⟩,
      by omega, by omega, ?_, rfl, ?_, ?_, ?_⟩
    · rw [Begun.ofByte?, if_neg hfew.1, if_neg hfew.2.1, if_neg hfew.2.2, if_neg hleast,
        if_pos (by omega)]
    · dsimp only
      omega
    · dsimp only
      split <;> omega
    · dsimp only
      omega

/-- The bytes of a character are decoded as that character. -/
theorem decodeFrom_utf8EncodeChar (c : Char) (rest : List UInt8) :
    decodeFrom none (String.utf8EncodeChar c ++ rest) = c :: decodeFrom none rest := by
  have hvalid : c.toNat < 0xd800 ∨ 0xdfff < c.toNat := c.valid.imp_right And.left
  rcases utf8EncodeChar_cases c with ⟨hlow, heq⟩ | ⟨hlow, hhigh, heq⟩ | ⟨hlow, hhigh, heq⟩ |
    ⟨hlow, hhigh, heq⟩ <;> rw [heq, List.cons_append]
  · rw [decodeFrom, toNat_ofNat (by omega), nextByte, firstByte, if_pos hlow, Char.ofNat_toNat]
    rfl
  · obtain ⟨begun, hfirst⟩ := exists_isFirst_two hlow hhigh
    simpa [tailBytes] using hfirst.decodeFrom_eq rest
  · obtain ⟨begun, hfirst⟩ := exists_isFirst_three hlow hhigh hvalid
    simpa [tailBytes] using hfirst.decodeFrom_eq rest
  · obtain ⟨begun, hfirst⟩ := exists_isFirst_four hlow hhigh
    simpa [tailBytes] using hfirst.decodeFrom_eq rest

theorem decodeFrom_flatMap (chars : List Char) :
    decodeFrom none (chars.flatMap String.utf8EncodeChar) = chars := by
  induction chars with
  | nil => rfl
  | cons c chars ih => rw [List.flatMap_cons, decodeFrom_utf8EncodeChar, ih]

/-- A text is read back from its UTF-8 form. -/
@[simp] theorem lossy_ofText (text : String) : lossy text = text := by
  rw [lossy, ofText, utf8Bytes, decodeFrom_flatMap, String.ofList_toList]

theorem ofText_inj {text other : String} : ofText text = ofText other ↔ text = other := by
  refine ⟨fun h => ?_, congrArg ofText⟩
  rw [← lossy_ofText text, h, lossy_ofText]

/-- Bytes are UTF-8 if they are those of a text. -/
theorem isUtf8_iff {text : OsText} : text.IsUtf8 ↔ ∃ decoded : String, text = decoded := by
  constructor
  · exact fun h => ⟨text.lossy, h.symm⟩
  · rintro ⟨decoded, rfl⟩
    exact congrArg ofText (lossy_ofText decoded)

theorem isUtf8_ofText (text : String) : (text : OsText).IsUtf8 := isUtf8_iff.mpr ⟨text, rfl⟩

theorem isUtf8_flatMap (chars : List Char) : (mk (chars.flatMap String.utf8EncodeChar)).IsUtf8 := by
  refine isUtf8_iff.mpr ⟨String.ofList chars, ?_⟩
  rw [ofText, utf8Bytes, String.toList_ofList]

theorem toText?_eq_some_iff {text : OsText} {decoded : String} :
    text.toText? = some decoded ↔ text = decoded := by
  unfold toText?
  constructor
  · intro h
    split at h
    · rename_i hutf8
      rw [← Option.some.inj h, hutf8]
    · cases h
  · rintro rfl
    rw [if_pos (isUtf8_ofText decoded), lossy_ofText]

@[simp] theorem toText?_ofText (text : String) : toText? text = some text :=
  toText?_eq_some_iff.mpr rfl

theorem toText?_eq_none_iff {text : OsText} : text.toText? = none ↔ ¬ text.IsUtf8 := by
  unfold toText?
  split <;> simp_all

/-! ## Characters that are decoded -/

/-- A character that takes a byte of its own and is not NUL. -/
def IsPlain (c : Char) : Prop := 0 < c.toNat ∧ c.toNat < 0x80

instance (c : Char) : Decidable (IsPlain c) := inferInstanceAs (Decidable (_ ∧ _))

/-- What stands for the code point of several bytes, or for none, is no plain character. -/
theorem not_isPlain_ofNat {code : Nat} (h : 0x80 ≤ code) : ¬ IsPlain (Char.ofNat code) := by
  rintro ⟨hpos, hlow⟩
  by_cases hvalid : code.isValidChar
  · rw [Char.ofNat, dif_pos hvalid] at hlow
    exact absurd (show code < 0x80 from hlow) (Nat.not_lt.mpr h)
  · rw [Char.ofNat, dif_neg hvalid] at hpos
    exact absurd hpos (by decide)

theorem not_isPlain_replacement : ¬ IsPlain replacement := by
  rintro ⟨-, hlow⟩
  exact absurd hlow (by decide)

/-- A first byte adds itself, or a replacement, or nothing. -/
theorem firstByte_cases (b : Nat) :
    (b < 0x80 ∧ firstByte b = ([Char.ofNat b], none)) ∨
      (∃ begun, firstByte b = ([], some begun)) ∨ firstByte b = ([replacement], none) := by
  unfold firstByte
  split
  · exact .inl ⟨‹_›, rfl⟩
  · split
    · exact .inr (.inl ⟨_, rfl⟩)
    · exact .inr (.inr rfl)

theorem toNat_ofNat_of_lt {b : Nat} (h : b < 0x80) : (Char.ofNat b).toNat = b := by
  have hvalid : b.isValidChar := .inl (by omega)
  rw [Char.ofNat, dif_pos hvalid]
  rfl

/-- A plain character that a byte adds is the byte. -/
theorem eq_of_mem_nextByte {begun : Option Begun} {b : UInt8} {c : Char} (hc : IsPlain c)
    (h : c ∈ (nextByte begun b.toNat).1) : b = .ofNat c.toNat := by
  have hfirst (hmem : c ∈ (firstByte b.toNat).1) : b = .ofNat c.toNat := by
    rcases firstByte_cases b.toNat with ⟨hlow, heq⟩ | ⟨_, heq⟩ | heq <;> rw [heq] at hmem
    · rw [List.mem_singleton.mp hmem, toNat_ofNat_of_lt hlow, UInt8.ofNat_toNat]
    · exact absurd hmem List.not_mem_nil
    · exact absurd (List.mem_singleton.mp hmem ▸ hc) not_isPlain_replacement
  cases begun with
  | none => exact hfirst h
  | some begun =>
    rw [nextByte] at h
    split at h
    · split at h
      · exact absurd (List.mem_singleton.mp h ▸ hc) (not_isPlain_ofNat (begun.next _).ge)
      · exact absurd h List.not_mem_nil
    · rcases List.mem_cons.mp h with rfl | h
      · exact absurd hc not_isPlain_replacement
      · exact hfirst h

/-- A plain character that is decoded is one of the bytes. -/
theorem mem_bytes_of_mem_decodeFrom {bytes : List UInt8} {begun : Option Begun} {c : Char}
    (hc : IsPlain c) (h : c ∈ decodeFrom begun bytes) : .ofNat c.toNat ∈ bytes := by
  induction bytes generalizing begun with
  | nil =>
    rw [decodeFrom] at h
    split at h
    · exact absurd (List.mem_singleton.mp h ▸ hc) not_isPlain_replacement
    · exact absurd h List.not_mem_nil
  | cons b rest ih =>
    rw [decodeFrom, List.mem_append] at h
    rcases h with h | h
    · exact eq_of_mem_nextByte hc h ▸ List.mem_cons_self ..
    · exact List.mem_cons_of_mem _ (ih h)

/-- A character that has begun is followed by one that is not plain. -/
theorem exists_decodeFrom_some (begun : Begun) (bytes : List UInt8) :
    ∃ c rest, decodeFrom (some begun) bytes = c :: rest ∧ ¬ IsPlain c := by
  induction bytes generalizing begun with
  | nil => exact ⟨_, _, rfl, not_isPlain_replacement⟩
  | cons b bytes ih =>
    rw [decodeFrom, nextByte]
    split
    · split
      · exact ⟨_, _, rfl, not_isPlain_ofNat (begun.next _).ge⟩
      · exact ih _
    · exact ⟨_, _, rfl, not_isPlain_replacement⟩

/-- A text starts with a plain character if it is decoded to one that does. -/
theorem head?_decodeFrom_iff {bytes : List UInt8} {c : Char} (hc : IsPlain c) :
    (decodeFrom none bytes).head? = some c ↔ bytes.head? = some (.ofNat c.toNat) := by
  cases bytes with
  | nil => exact iff_of_false (by simp [decodeFrom]) (by simp)
  | cons b bytes =>
    have hbyte : b = .ofNat c.toNat → b.toNat < 0x80 := by
      rintro rfl
      rw [toNat_ofNat (Nat.lt_of_lt_of_le hc.2 (by decide))]
      exact hc.2
    rw [decodeFrom, nextByte, List.head?_cons, Option.some.injEq]
    by_cases hlow : b.toNat < 0x80
    · rw [firstByte, if_pos hlow, List.singleton_append, List.head?_cons, Option.some.injEq]
      constructor
      · rintro rfl
        rw [toNat_ofNat_of_lt hlow, UInt8.ofNat_toNat]
      · rintro rfl
        rw [toNat_ofNat (Nat.lt_of_lt_of_le hc.2 (by decide)), Char.ofNat_toNat]
    · -- the first character is a replacement, or one of several bytes
      refine iff_of_false (fun hhead => ?_) (mt hbyte hlow)
      rw [firstByte, if_neg hlow] at hhead
      split at hhead
      · rename_i begun _
        obtain ⟨d, rest, hdecoded, hforeign⟩ := exists_decodeFrom_some begun bytes
        rw [List.nil_append, hdecoded, List.head?_cons, Option.some.injEq] at hhead
        exact hforeign (hhead ▸ hc)
      · rw [List.singleton_append, List.head?_cons, Option.some.injEq] at hhead
        exact not_isPlain_replacement (hhead ▸ hc)

/-- Where only plain characters are decoded, the bytes are theirs. -/
theorem eq_flatMap_of_decodeFrom {bytes : List UInt8} {chars : List Char}
    (hchars : ∀ c ∈ chars, IsPlain c) (h : decodeFrom none bytes = chars) :
    bytes = chars.flatMap String.utf8EncodeChar := by
  -- every byte is a character of its own: others begin with a character that is not plain
  induction bytes generalizing chars with
  | nil => exact h ▸ rfl
  | cons b bytes ih =>
    rw [decodeFrom, nextByte] at h
    rcases firstByte_cases b.toNat with ⟨hlow, heq⟩ | ⟨begun, heq⟩ | heq <;> rw [heq] at h
    · subst h
      have hrest : bytes = (decodeFrom none bytes).flatMap String.utf8EncodeChar :=
        ih (fun c hmem => hchars c (List.mem_append_right _ hmem)) rfl
      rw [List.singleton_append, List.flatMap_cons, ← hrest,
        utf8EncodeChar_ascii (by rwa [toNat_ofNat_of_lt hlow]), toNat_ofNat_of_lt hlow,
        UInt8.ofNat_toNat]
      rfl
    · obtain ⟨c, rest, hdecoded, hforeign⟩ := exists_decodeFrom_some begun bytes
      rw [List.nil_append, hdecoded] at h
      exact absurd (hchars c (h ▸ List.mem_cons_self ..)) hforeign
    · exact absurd (hchars replacement (h ▸ List.mem_cons_self ..)) not_isPlain_replacement

/-- A plain character of a decoded text is one of the bytes. -/
theorem mem_bytes_of_mem_lossy {text : OsText} {c : Char} (hc : IsPlain c)
    (h : c ∈ text.lossy.toList) : .ofNat c.toNat ∈ text.bytes := by
  rw [lossy, String.toList_ofList] at h
  exact mem_bytes_of_mem_decodeFrom hc h

/-- Only a text of plain characters is decoded to it. -/
theorem eq_ofText_of_lossy {text : OsText} {decoded : String} (hplain : ∀ c ∈ decoded.toList, IsPlain c)
    (h : text.lossy = decoded) : text = decoded := by
  have hdecode : decodeFrom none text.bytes = decoded.toList := by
    rw [← h, lossy, String.toList_ofList]
  exact congrArg mk (eq_flatMap_of_decodeFrom hplain hdecode)

/-! ## Putting together and cutting -/

theorem bytes_ofText (text : String) : (ofText text).bytes = utf8Bytes text := rfl

@[simp] theorem bytes_append (first last : OsText) : (first ++ last).bytes = first.bytes ++ last.bytes :=
  rfl

theorem ofText_append (first last : String) : ofText (first ++ last) = ofText first ++ ofText last :=
  congrArg mk (utf8Bytes_append first last)

theorem append_assoc (first second third : OsText) :
    first ++ second ++ third = first ++ (second ++ third) :=
  congrArg mk (List.append_assoc ..)

theorem IsUtf8.append {first last : OsText} (hfirst : first.IsUtf8) (hlast : last.IsUtf8) :
    (first ++ last).IsUtf8 := by
  obtain ⟨first, rfl⟩ := isUtf8_iff.mp hfirst
  obtain ⟨last, rfl⟩ := isUtf8_iff.mp hlast
  exact isUtf8_iff.mpr ⟨first ++ last, (ofText_append first last).symm⟩

/-- Cutting the bytes of a text at a character of ASCII cuts the text there. -/
theorem splitWhere_utf8Bytes {c : Char} (hc : c.toNat < 0x80) (chars : List Char) :
    Text.splitWhere (· == .ofNat c.toNat) (chars.flatMap String.utf8EncodeChar) =
      (Text.splitWhere (· == c) chars).map (List.flatMap String.utf8EncodeChar) := by
  induction chars with
  | nil => rfl
  | cons d chars ih =>
    rw [List.flatMap_cons]
    by_cases hd : d = c
    · rw [hd, utf8EncodeChar_ascii hc, List.singleton_append, Text.splitWhere, Text.splitWhere,
        if_pos (beq_self_eq_true _), if_pos (beq_self_eq_true _), ih]
      rfl
    · have hfree : ∀ b ∈ String.utf8EncodeChar d, (b == .ofNat c.toNat) = false := by
        intro b hb
        rw [beq_eq_false_iff_ne]
        rintro rfl
        exact hd (eq_of_mem_utf8EncodeChar hc hb)
      cases hrest : Text.splitWhere (· == c) chars with
      | nil => exact absurd hrest (Text.splitWhere_ne_nil _ _)
      | cons run runs =>
        rw [hrest, List.map_cons] at ih
        rw [Text.splitWhere_append_of_free hfree ih, Text.splitWhere,
          if_neg (by simpa using hd), hrest]
        rfl

end CodeSearch.OsText
