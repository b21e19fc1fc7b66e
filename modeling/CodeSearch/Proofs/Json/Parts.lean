import CodeSearch.Json.Basic

/-!
# The parts of a value

What lists and objects have as soon as their items and members have it, every value has
(`inductionOnParts`).  `Json.numbers` are the numbers in a value, at any level.
-/

namespace CodeSearch.Json

/-- A property of values that lists and objects have if their parts have it. -/
@[elab_as_elim]
theorem inductionOnParts {motive : Json → Prop} (value : Json) (null : motive .null)
    (bool : ∀ value, motive (.bool value)) (number : ∀ value, motive (.number value))
    (string : ∀ value, motive (.string value))
    (array : ∀ items, (∀ item ∈ items, motive item) → motive (.array items))
    (object : ∀ members, (∀ m ∈ members, motive m.2) → motive (.object members)) :
    motive value := by
  refine @Json.rec motive (fun items => ∀ item ∈ items, motive item)
    (fun members => ∀ m ∈ members, motive m.2) (fun m => motive m.2)
    null bool number string array object ?_ ?_ ?_ ?_ ?_ value
  · simp
  · intro item items hitem hitems
    exact List.forall_mem_cons.mpr ⟨hitem, hitems⟩
  · simp
  · intro m members hm hmembers
    exact List.forall_mem_cons.mpr ⟨hm, hmembers⟩
  · exact fun _ _ h => h

/-- The numbers in a value. -/
def numbers : Json → List Number
  | number value => [value]
  | array items => values items
  | object members => fields members
  | _ => []
where
  values : List Json → List Number
    | [] => []
    | item :: rest => item.numbers ++ values rest
  fields : List (String × Json) → List Number
    | [] => []
    | (_, value) :: rest => value.numbers ++ fields rest

theorem mem_numbers_array {n : Number} {items : List Json} :
    n ∈ (array items).numbers ↔ ∃ item ∈ items, n ∈ item.numbers := by
  rw [numbers]
  induction items with
  | nil => simp [numbers.values]
  | cons item items ih => simp [numbers.values, ih]

theorem mem_numbers_object {n : Number} {members : List (String × Json)} :
    n ∈ (object members).numbers ↔ ∃ m ∈ members, n ∈ m.2.numbers := by
  rw [numbers]
  induction members with
  | nil => simp [numbers.fields]
  | cons m members ih => simp [numbers.fields, ih]

/-- Whether all numbers in a value are integers. -/
def IntegersOnly (value : Json) : Prop := ∀ n ∈ value.numbers, ∃ k, n = .int k

theorem integersOnly_null : IntegersOnly .null := fun _ hn => absurd hn List.not_mem_nil

theorem integersOnly_string (text : String) : IntegersOnly (.string text) :=
  fun _ hn => absurd hn List.not_mem_nil

theorem integersOnly_int (k : Int) : IntegersOnly (.number (.int k)) :=
  fun _ hn => ⟨k, List.mem_singleton.1 hn⟩

theorem integersOnly_object {members : List (String × Json)} :
    IntegersOnly (.object members) ↔ ∀ m ∈ members, IntegersOnly m.2 := by
  simp only [IntegersOnly, mem_numbers_object]
  exact ⟨fun h m hm n hn => h n ⟨m, hm, hn⟩, fun h n ⟨m, hm, hn⟩ => h m hm n hn⟩

theorem integersOnly_array {items : List Json} :
    IntegersOnly (.array items) ↔ ∀ item ∈ items, IntegersOnly item := by
  simp only [IntegersOnly, mem_numbers_array]
  exact ⟨fun h item hitem n hn => h n ⟨item, hitem, hn⟩,
    fun h n ⟨item, hitem, hn⟩ => h item hitem n hn⟩

/-- What is found under a key is a member of an object. -/
theorem exists_mem_of_get? {key : String} {value found : Json} (h : value.get? key = some found) :
    ∃ members, value = .object members ∧ (key, found) ∈ members := by
  cases value with
  | object members =>
    obtain ⟨m, hm, rfl⟩ := Option.map_eq_some_iff.mp h
    have hkey : m.1 = key := by simpa using List.find?_some hm
    exact ⟨members, rfl, hkey ▸ List.mem_of_find?_eq_some hm⟩
  | _ => simp [get?] at h

/-- The numbers of a member are numbers of its object. -/
theorem mem_numbers_of_get? {key : String} {value found : Json} (h : value.get? key = some found)
    {n : Number} (hn : n ∈ found.numbers) : n ∈ value.numbers := by
  obtain ⟨members, rfl, hmem⟩ := exists_mem_of_get? h
  exact mem_numbers_object.mpr ⟨_, hmem, hn⟩

end CodeSearch.Json
