import CodeSearch.Proofs.ByteOrder
import Mathlib.Order.Basic
import Mathlib.Data.String.Basic

/-!
# Texts and their bytes

A text can be read back from its bytes (`utf8Bytes_inj`).  A byte below 128 is no part of the encoding of
another character, so a text can be cut at a character of ASCII by cutting its bytes there
(`exists_cut_of_utf8Bytes`).
-/

namespace CodeSearch

@[simp] theorem utf8Bytes_append (s t : String) : utf8Bytes (s ++ t) = utf8Bytes s ++ utf8Bytes t := by
  simp [utf8Bytes]

theorem utf8Bytes_inj {s t : String} : utf8Bytes s = utf8Bytes t ↔ s = t := by
  constructor
  · intro h
    by_contra hne
    rcases lt_or_gt_of_ne hne with hlt | hlt
    · have hbytes := utf8Bytes_lt hlt
      rw [h] at hbytes
      exact List.lt_irrefl _ hbytes
    · have hbytes := utf8Bytes_lt hlt
      rw [h] at hbytes
      exact List.lt_irrefl _ hbytes
  · rintro rfl
    rfl

/-- The encoding of a character of ASCII is a single byte. -/
theorem utf8EncodeChar_ascii {c : Char} (hc : c.toNat < 0x80) :
    String.utf8EncodeChar c = [.ofNat c.toNat] := by
  rcases utf8EncodeChar_cases c with ⟨-, heq⟩ | ⟨hlow, -⟩ | ⟨hlow, -⟩ | ⟨hlow, -⟩
  · exact heq
  all_goals omega

/-- The bytes of any other character are greater. -/
theorem le_of_mem_utf8EncodeChar {c : Char} (hc : 0x80 ≤ c.toNat) :
    ∀ b ∈ String.utf8EncodeChar c, 0x80 ≤ b.toNat := by
  rcases utf8EncodeChar_cases c with ⟨hlow, -⟩ | ⟨-, -, heq⟩ | ⟨-, -, heq⟩ | ⟨-, -, heq⟩
  · omega
  all_goals
    rw [heq]
    simp only [List.forall_mem_cons, UInt8.toNat_ofNat']
    simp
    omega

/-- A byte of ASCII in the encoding of a character is that character. -/
theorem eq_of_mem_utf8EncodeChar {c d : Char} (hc : c.toNat < 0x80)
    (h : .ofNat c.toNat ∈ String.utf8EncodeChar d) : d = c := by
  by_cases hd : d.toNat < 0x80
  · rw [utf8EncodeChar_ascii hd, List.mem_singleton] at h
    exact (Char.toNat_inj.1 ((ofNat_eq_ofNat_iff (by omega) (by omega)).1 h)).symm
  · have hgreat := le_of_mem_utf8EncodeChar (by omega) _ h
    rw [UInt8.toNat_ofNat'] at hgreat
    omega

theorem mem_utf8Bytes_iff {c : Char} (hc : c.toNat < 0x80) {text : String} :
    .ofNat c.toNat ∈ utf8Bytes text ↔ c ∈ text.toList := by
  rw [utf8Bytes, List.mem_flatMap]
  constructor
  · rintro ⟨d, hd, hbyte⟩
    exact eq_of_mem_utf8EncodeChar hc hbyte ▸ hd
  · intro hmem
    exact ⟨c, hmem, by simp [utf8EncodeChar_ascii hc]⟩

/-- Cutting the bytes of characters at a character of ASCII cuts the characters there. -/
theorem exists_cut_of_flatMap {c : Char} (hc : c.toNat < 0x80) {chars : List Char}
    {before after : List UInt8}
    (h : chars.flatMap String.utf8EncodeChar = before ++ .ofNat c.toNat :: after) :
    ∃ first last, chars = first ++ c :: last ∧ first.flatMap String.utf8EncodeChar = before ∧
      last.flatMap String.utf8EncodeChar = after := by
  induction chars generalizing before with
  | nil => simp at h
  | cons d chars ih =>
    rw [List.flatMap_cons] at h
    rcases List.append_eq_append_iff.1 h with ⟨rest, hbefore, hrest⟩ | ⟨rest, hcode, hrest⟩
    · -- the cut is behind `d`
      obtain ⟨first, last, rfl, hfirst, hlast⟩ := ih hrest
      exact ⟨d :: first, last, rfl, by rw [List.flatMap_cons, hfirst, hbefore], hlast⟩
    · cases rest with
      | nil =>
        have hnext : chars.flatMap String.utf8EncodeChar = [] ++ .ofNat c.toNat :: after :=
          hrest.symm
        obtain ⟨first, last, rfl, hfirst, hlast⟩ := ih hnext
        refine ⟨d :: first, last, rfl, ?_, hlast⟩
        rw [List.flatMap_cons, hfirst, hcode]
        simp
      | cons b rest =>
        obtain ⟨rfl, hafter⟩ := List.cons.inj hrest
        have hd : d = c := eq_of_mem_utf8EncodeChar hc (by simp [hcode])
        rw [hd, utf8EncodeChar_ascii hc] at hcode
        -- a single byte has nothing around it
        cases before with
        | cons first before => simp at hcode
        | nil =>
          obtain rfl : rest = [] := by simpa using hcode.symm
          exact ⟨[], chars, by rw [hd]; rfl, rfl, hafter.symm⟩

/-- Cutting the bytes of a text at a character of ASCII cuts the text there. -/
theorem exists_cut_of_utf8Bytes {c : Char} (hc : c.toNat < 0x80) {text : String}
    {before after : List UInt8} (h : utf8Bytes text = before ++ .ofNat c.toNat :: after) :
    ∃ first last, text = first ++ String.singleton c ++ last ∧ utf8Bytes first = before ∧
      utf8Bytes last = after := by
  obtain ⟨first, last, htext, hfirst, hlast⟩ := exists_cut_of_flatMap hc h
  refine ⟨String.ofList first, String.ofList last, ?_, ?_, ?_⟩
  · rw [← String.toList_inj, htext]
    simp
  · rwa [utf8Bytes, String.toList_ofList]
  · rwa [utf8Bytes, String.toList_ofList]

/-- The bytes of a text end with those of one that starts with a dot exactly if the text ends with
it. -/
theorem exists_utf8Bytes_append_iff {text rest : String} :
    (∃ start, utf8Bytes text = start ++ utf8Bytes ("." ++ rest)) ↔
      ("." ++ rest).toList <:+ text.toList := by
  constructor
  · rintro ⟨start, h⟩
    have hcut : utf8Bytes text = start ++ .ofNat '.'.toNat :: utf8Bytes rest := by
      rw [h, utf8Bytes_append]
      rfl
    obtain ⟨first, last, rfl, -, hlast⟩ := exists_cut_of_utf8Bytes (by decide) hcut
    rw [utf8Bytes_inj.1 hlast]
    exact ⟨first.toList, by simp⟩
  · rintro ⟨start, h⟩
    refine ⟨utf8Bytes (String.ofList start), ?_⟩
    rw [← utf8Bytes_append, utf8Bytes_inj, ← String.toList_inj, ← h]
    simp

end CodeSearch
