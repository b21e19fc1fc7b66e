import CodeSearch.Proofs.Json.Parts
import Mathlib.Data.String.Basic

/-!
# The form in which values are kept

A value is kept with the members of each object sorted by key, the last of equal keys alone.  Such
members have one key each (`nodup_keys_keptMembers`), and what is found under a key is what was
written under it last (`get?_keptMembers`).
-/

namespace CodeSearch.Json

/-! ## Members by key -/

theorem get?_cons (key : String) (m : String × Json) (members : List (String × Json)) :
    (Json.object (m :: members)).get? key =
      if m.1 = key then some m.2 else (Json.object members).get? key := by
  rw [get?, get?, List.find?_cons]
  by_cases h : m.1 = key
  · simp [h]
  · simp [h, beq_eq_false_iff_ne.mpr h]

theorem get?_append (key : String) (members others : List (String × Json)) :
    (Json.object (members ++ others)).get? key =
      ((Json.object members).get? key).or ((Json.object others).get? key) := by
  induction members with
  | nil => rfl
  | cons m members ih =>
    rw [List.cons_append, get?_cons, ih, get?_cons]
    split <;> rfl

/-- Nothing is found under a key that no member has. -/
theorem get?_eq_none {key : String} {members : List (String × Json)}
    (h : ∀ m ∈ members, m.1 ≠ key) : (Json.object members).get? key = none := by
  induction members with
  | nil => rfl
  | cons m members ih =>
    rw [get?_cons, if_neg (h m List.mem_cons_self)]
    exact ih fun m hm => h m (List.mem_cons_of_mem _ hm)

/-- A member that is put into others is found by its key, and leaves the others to theirs. -/
theorem get?_insertMember (key k : String) (value : Json) (members : List (String × Json)) :
    (Json.object (insertMember k value members)).get? key =
      if k = key then some value else (Json.object members).get? key := by
  induction members with
  | nil => rw [insertMember, get?_cons]
  | cons m members ih =>
    rw [insertMember]
    split
    case isTrue => rw [get?_cons]
    case isFalse =>
      split
      case isTrue heq =>
        subst heq
        rw [get?_cons, get?_cons]
        split <;> rfl
      case isFalse hne =>
        rw [get?_cons, ih, get?_cons]
        by_cases hkey : k = key
        · subst hkey
          rw [if_neg (Ne.symm hne), if_pos rfl, if_pos rfl]
        · rw [if_neg hkey, if_neg hkey]

/-- The keys of members rise strictly. -/
def SortedByKey (members : List (String × Json)) : Prop := members.Pairwise (·.1 < ·.1)

/-- Putting a member into others changes the members by that member alone. -/
theorem eq_or_mem_of_mem_insertMember {key : String} {value : Json} {members : List (String × Json)}
    {m : String × Json} (h : m ∈ insertMember key value members) :
    m = (key, value) ∨ m ∈ members := by
  induction members with
  | nil => exact .inl (List.mem_singleton.mp h)
  | cons first members ih =>
    rw [insertMember] at h
    split at h
    case isTrue => exact List.mem_cons.mp h
    case isFalse =>
      split at h
      case isTrue => exact (List.mem_cons.mp h).imp_right (List.mem_cons_of_mem _)
      case isFalse =>
        rcases List.mem_cons.mp h with rfl | h
        · exact .inr List.mem_cons_self
        · exact (ih h).imp_right (List.mem_cons_of_mem _)

theorem sortedByKey_insertMember {members : List (String × Json)} (h : SortedByKey members)
    (key : String) (value : Json) : SortedByKey (insertMember key value members) := by
  induction members with
  | nil => exact List.pairwise_singleton _ _
  | cons first members ih =>
    obtain ⟨hfirst, hmembers⟩ := List.pairwise_cons.mp h
    rw [insertMember]
    split
    case isTrue hlt =>
      refine List.pairwise_cons.mpr ⟨fun m hm => ?_, h⟩
      rcases List.mem_cons.mp hm with rfl | hm
      · exact hlt
      · exact hlt.trans (hfirst m hm)
    case isFalse hle =>
      split
      case isTrue heq => exact List.pairwise_cons.mpr ⟨heq ▸ hfirst, hmembers⟩
      case isFalse hne =>
        refine List.pairwise_cons.mpr ⟨fun m hm => ?_, ih hmembers⟩
        rcases eq_or_mem_of_mem_insertMember hm with rfl | hm
        · exact lt_of_le_of_ne (not_lt.mp hle) (Ne.symm hne)
        · exact hfirst m hm

/-- The members of a kept object, put in one after the other. -/
def keptMembers (members : List (String × Json)) : List (String × Json) :=
  members.foldl (fun done m => insertMember m.1 m.2.canonical done) []

theorem canonical_object (members : List (String × Json)) :
    (Json.object members).canonical = .object (keptMembers members) := by
  have hsorted : canonical.sorted members = members.map fun m => (m.1, m.2.canonical) := by
    induction members with
    | nil => rfl
    | cons m members ih => rw [canonical.sorted, ih]; rfl
  rw [canonical, hsorted, List.foldl_map]
  rfl

theorem canonical_array (items : List Json) :
    (Json.array items).canonical = .array (items.map canonical) := by
  have hvalues : canonical.values items = items.map canonical := by
    induction items with
    | nil => rfl
    | cons item items ih => rw [canonical.values, ih]; rfl
  rw [canonical, hvalues]

/-- Nothing is kept that was not written. -/
theorem exists_of_mem_keptMembers {members : List (String × Json)} {m : String × Json}
    (h : m ∈ keptMembers members) : ∃ written ∈ members, m = (written.1, written.2.canonical) := by
  have hfoldl (done : List (String × Json)) :
      m ∈ members.foldl (fun done m => insertMember m.1 m.2.canonical done) done →
        m ∈ done ∨ ∃ written ∈ members, m = (written.1, written.2.canonical) := by
    clear h
    induction members generalizing done with
    | nil => exact .inl
    | cons first members ih =>
      intro h
      rcases ih _ h with hdone | ⟨written, hwritten, rfl⟩
      · rcases eq_or_mem_of_mem_insertMember hdone with rfl | hdone
        · exact .inr ⟨first, List.mem_cons_self, rfl⟩
        · exact .inl hdone
      · exact .inr ⟨written, List.mem_cons_of_mem _ hwritten, rfl⟩
  exact (hfoldl [] h).resolve_left List.not_mem_nil

/-- No number comes in when a value is kept. -/
theorem mem_numbers_of_canonical {n : Number} {value : Json} (h : n ∈ value.canonical.numbers) :
    n ∈ value.numbers := by
  induction value using inductionOnParts with
  | array items ih =>
    rw [canonical_array, mem_numbers_array] at h
    obtain ⟨_, hkept, hn⟩ := h
    obtain ⟨item, hitem, rfl⟩ := List.mem_map.mp hkept
    exact mem_numbers_array.mpr ⟨item, hitem, ih item hitem hn⟩
  | object members ih =>
    rw [canonical_object, mem_numbers_object] at h
    obtain ⟨_, hkept, hn⟩ := h
    obtain ⟨m, hm, rfl⟩ := exists_of_mem_keptMembers hkept
    exact mem_numbers_object.mpr ⟨m, hm, ih m hm hn⟩
  | _ => exact h

theorem sortedByKey_keptMembers (members : List (String × Json)) :
    SortedByKey (keptMembers members) := by
  have hfoldl (done : List (String × Json)) (hdone : SortedByKey done) :
      SortedByKey (members.foldl (fun done m => insertMember m.1 m.2.canonical done) done) := by
    induction members generalizing done with
    | nil => exact hdone
    | cons m members ih => exact ih _ (sortedByKey_insertMember hdone m.1 m.2.canonical)
  exact hfoldl [] List.Pairwise.nil

/-- Kept members have one key each. -/
theorem nodup_keys_keptMembers (members : List (String × Json)) :
    ((keptMembers members).map (·.1)).Nodup := by
  refine List.Pairwise.map _ (fun m n hlt => ?_) (sortedByKey_keptMembers members)
  exact hlt.ne

/-- What is kept under a key is what was written under it last. -/
theorem get?_keptMembers (key : String) (members : List (String × Json)) :
    (Json.object (keptMembers members)).get? key =
      ((Json.object members.reverse).get? key).map canonical := by
  have hfoldl (done : List (String × Json)) :
      (Json.object (members.foldl (fun done m => insertMember m.1 m.2.canonical done) done)).get? key =
        (((Json.object members.reverse).get? key).map canonical).or
          ((Json.object done).get? key) := by
    induction members generalizing done with
    | nil => rfl
    | cons m members ih =>
      rw [List.foldl_cons, ih, get?_insertMember, List.reverse_cons, get?_append, get?_cons]
      cases (Json.object members.reverse).get? key with
      | some value => rfl
      | none => split <;> rfl
  rw [keptMembers, hfoldl]
  exact Option.or_none

end CodeSearch.Json
