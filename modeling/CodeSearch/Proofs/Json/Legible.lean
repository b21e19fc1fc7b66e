import CodeSearch.Proofs.Json.Canonical
import CodeSearch.Proofs.Json.Numbers
import CodeSearch.Proofs.Json.Steps
import Mathlib.Tactic.Choose

/-!
# Legible values

`Legible depth value` says that a value is nested no deeper than a reader of `depth` levels goes and
that its numbers are kept.  What is read is legible (`legible_of_readValue`) and stays so when it is
kept (`Legible.canonical`).  What is written for a legible value can always be read: as that value if
its numbers are integers, and with doubles in the same places otherwise (`Legible.exists_readsAs`).
-/

namespace CodeSearch.Json

/-- The values that a reader of some levels gives and takes. -/
inductive Legible : Nat → Json → Prop
  | null {depth : Nat} : Legible depth .null
  | bool {depth : Nat} (value : Bool) : Legible depth (.bool value)
  | number {depth : Nat} {n : Number} (hn : n.IsKept) : Legible depth (.number n)
  | string {depth : Nat} (text : String) : Legible depth (.string text)
  | array {depth : Nat} {items : List Json} (hitems : ∀ item ∈ items, Legible (depth + 1) item) :
    Legible (depth + 2) (.array items)
  | object {depth : Nat} {members : List (String × Json)}
    (hmembers : ∀ m ∈ members, Legible (depth + 1) m.2) : Legible (depth + 2) (.object members)

/-- What is read is legible. -/
theorem legible_of_readValue {depth : Nat} {text : List Char} {r : Json × List Char}
    (h : readValue depth text = .ok r) : Legible depth r.1 := by
  induction depth using Nat.strongRecOn generalizing text r with
  | ind depth ih =>
    cases readsValue_of_readValue h with
    | null => exact .null
    | yes => exact .bool true
    | no => exact .bool false
    | number htext hc hnumber => exact .number (isKept_of_readNumber hnumber)
    | string => exact .string _
    | @array depth _ _ _ htext hitems =>
      obtain ⟨found, hfound, hlegible⟩ := forall_of_readItems
        (fun _ _ hitem => ih (depth + 1) (Nat.lt_succ_self _) hitem) (by simp) hitems
      rw [hfound]
      exact .array hlegible
    | @object depth _ _ _ members htext hmembers =>
      have hlegible : ∀ m ∈ members, Legible (depth + 1) m.2 := by
        refine invariant_of_foldMembers (P := fun members : List (String × Json) =>
          ∀ m ∈ members, Legible (depth + 1) m.2) ?_ (by simp) hmembers
        intro members key text r hmembers hread
        obtain ⟨behind, -, hread⟩ := exists_of_bind_eq_ok hread
        obtain ⟨⟨value, rest⟩, hvalue, heq⟩ := exists_of_bind_eq_ok hread
        obtain rfl := Except.ok.inj heq
        exact List.forall_mem_cons.mpr ⟨ih (depth + 1) (Nat.lt_succ_self _) hvalue, hmembers⟩
      exact .object fun m hm => hlegible m (List.mem_reverse.mp hm)

/-- A legible value is legible in the form in which values are kept. -/
theorem Legible.canonical {depth : Nat} {value : Json} (h : Legible depth value) :
    Legible depth value.canonical := by
  induction h with
  | null => exact .null
  | bool value => exact .bool value
  | number hn => exact .number hn
  | string text => exact .string text
  | array hitems ih =>
    rw [canonical_array]
    refine .array fun item hitem => ?_
    obtain ⟨written, hwritten, rfl⟩ := List.mem_map.mp hitem
    exact ih written hwritten
  | object hmembers ih =>
    rw [canonical_object]
    refine .object fun m hm => ?_
    obtain ⟨written, hwritten, rfl⟩ := exists_of_mem_keptMembers hm
    exact ih written hwritten

/-! ## Legible values are read -/

/-- Whether a value is read as some value, and as it was if its numbers are integers. -/
def ReadsAs (depth : Nat) (value found : Json) : Prop :=
  IsReadAs depth value found ∧ (IntegersOnly value → found = value)

/-- Members that can be read are read as members with the same keys. -/
theorem exists_readMembers {depth : Nat} {members : List (String × Json)}
    (h : ∀ m ∈ members, ∃ found, ReadsAs (depth + 1) m.2 found) :
    ∃ found : String × Json → Json,
      IsReadAs (depth + 2) (.object members) (.object (members.map fun m => (m.1, found m))) ∧
      ∀ m ∈ members, IntegersOnly m.2 → found m = m.2 := by
  have : Nonempty Json := ⟨.null⟩
  choose! found hread hsame using h
  refine ⟨found, .object ?_, hsame⟩
  exact List.forall₂_map_right_iff.mpr (List.forall₂_same.mpr fun m hm => ⟨rfl, hread m hm⟩)

/-- A legible value is read from its form on one line. -/
theorem Legible.exists_readsAs {depth : Nat} {value : Json} (h : Legible depth value) :
    ∃ found, ReadsAs depth value found := by
  have : Nonempty Json := ⟨.null⟩
  induction h with
  | null => exact ⟨.null, isReadBack_null _, fun _ => rfl⟩
  | bool value => exact ⟨.bool value, isReadBack_bool _ value, fun _ => rfl⟩
  | @number depth n hn =>
    obtain ⟨m, hm, hread⟩ := hn.exists_readNumber
    have hfirst := exists_eq_cons_of_readNumber (hread [] (by simp [EndsNumber]))
    rw [List.append_nil] at hfirst
    refine ⟨.number m, .number hfirst hread, fun hints => ?_⟩
    obtain ⟨k, hk⟩ := hints n List.mem_cons_self
    rw [hm k hk]
  | string text => exact ⟨.string text, isReadBack_string _ text, fun _ => rfl⟩
  | @array depth items hitems ih =>
    choose! found hread hsame using ih
    refine ⟨.array (items.map found), .array ?_, fun hints => ?_⟩
    · exact List.forall₂_map_right_iff.mpr (List.forall₂_same.mpr hread)
    · have hfound : ∀ item ∈ items, found item = item := fun item hitem =>
        hsame item hitem (integersOnly_array.mp hints item hitem)
      rw [List.map_congr_left hfound, List.map_id']
  | @object depth members hmembers ih =>
    obtain ⟨found, hread, hsame⟩ := exists_readMembers ih
    refine ⟨_, hread, fun hints => ?_⟩
    have hfound : ∀ m ∈ members, (m.1, found m) = m := fun m hm => by
      rw [hsame m hm (integersOnly_object.mp hints m hm)]
    rw [List.map_congr_left hfound, List.map_id']

/-- A legible object is read as an object with the same keys. -/
theorem Legible.exists_readMembers {depth : Nat} {members : List (String × Json)}
    (h : Legible (depth + 2) (.object members)) :
    ∃ found : String × Json → Json,
      IsReadAs (depth + 2) (.object members) (.object (members.map fun m => (m.1, found m))) ∧
      ∀ m ∈ members, IntegersOnly m.2 → found m = m.2 := by
  cases h with
  | object hmembers => exact Json.exists_readMembers fun m hm => (hmembers m hm).exists_readsAs

/-- A member without doubles is found as it was written. -/
theorem get?_map_found {members : List (String × Json)} {found : String × Json → Json}
    (hsame : ∀ m ∈ members, IntegersOnly m.2 → found m = m.2) {key : String} {value : Json}
    (hget : (Json.object members).get? key = some value) (hints : IntegersOnly value) :
    (Json.object (members.map fun m => (m.1, found m))).get? key = some value := by
  induction members with
  | nil => simp [get?] at hget
  | cons m members ih =>
    obtain ⟨hm, hmembers⟩ := List.forall_mem_cons.mp hsame
    rw [get?_cons] at hget
    rw [List.map_cons, get?_cons]
    split at hget
    case isTrue hkey =>
      obtain rfl := Option.some.inj hget
      rw [if_pos hkey, hm hints]
    case isFalse hkey =>
      rw [if_neg hkey]
      exact ih hmembers hget

/-! ## Whole texts -/

/-- What is written on one line is read as a whole. -/
theorem IsReadAs.parse_compact {value found : Json} (h : IsReadAs maxDepth value found) :
    parse value.compact = .ok found := by
  have hread := h [] (by simp [EndsNumber])
  rw [List.append_nil] at hread
  rw [parse, compact, String.toList_ofList, hread]
  rfl

end CodeSearch.Json
