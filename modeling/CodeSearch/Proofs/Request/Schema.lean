import CodeSearch.Proofs.Request.Arguments

/-!
# Requests and the schemas of tools

`Json.meets schema value` reads a schema: its `type`, its `properties` and what it has `required`.
Every tool is described by such a schema, and what it accepts as arguments meets the schema.  The
converse holds but for one restriction: the schema of a number of days asks for an integer, and the
tool for one from `0` to `2 ^ 64 - 1` (`Request.isOk_ofCall_iff_meets`).
-/

namespace CodeSearch

/-! ## Schemas -/

namespace Json

/-- Whether a number is an integer, however it is written. -/
def Number.isWhole : Number → Bool
  | int _ => true
  | float value => 0 ≤ value.exponent || value.significand % Nat.pow 2 (-value.exponent).toNat == 0

/-- Whether a value is of the type that a schema names. -/
def isOfType : String → Json → Bool
  | "null", null => true
  | "boolean", bool _ => true
  | "integer", number value => value.isWhole
  | "number", number _ => true
  | "string", string _ => true
  | "array", array _ => true
  | "object", object _ => true
  | _, _ => false

/-- Whether an object has a member for each of some keys; other values need none. -/
def hasMembers (names : List Json) : Json → Bool
  | object members => names.all fun name =>
    match name with
    | string key => ((object members).get? key).isSome
    | _ => true
  | _ => true

/-- Whether a value meets a schema.  Other keywords put no condition on it. -/
def meets : (schema value : Json) → Bool
  | object keywords, value => conditions keywords value
  | bool admitted, _ => admitted
  | _, _ => true
where
  conditions : List (String × Json) → Json → Bool
    | [], _ => true
    | (keyword, condition) :: rest, value =>
      (match keyword, condition with
        | "type", string name => value.isOfType name
        | "properties", object properties => members properties value
        | "required", array names => value.hasMembers names
        | _, _ => true) && conditions rest value
  members : List (String × Json) → Json → Bool
    | [], _ => true
    | (key, schema) :: rest, value =>
      (match value.get? key with
        | some member => schema.meets member
        | none => true) && members rest value

end Json

namespace PublishedTool

/-- The arguments of a tool meet its schema if they are an object in which its own one is of the
type that the schema names. -/
theorem meets_inputSchema_iff {tool : PublishedTool} {value : Json} :
    (tool.inputSchema []).meets value = true ↔
      ∃ found, value.get? tool.argument = some found ∧
        found.isOfType tool.type = true := by
  have hconditions : (tool.inputSchema []).meets value =
      ((match value.get? tool.argument with
        | some found => found.isOfType tool.type
        | none => true) && (value.hasMembers [.string tool.argument] && value.isOfType "object")) := by
    simp only [inputSchema, List.foldl_nil, List.map_nil, List.map_cons, Json.meets,
      Json.meets.conditions, Json.meets.members, Bool.and_true]
    cases value.get? tool.argument <;> rfl
  rw [hconditions]
  cases value with
  | object members =>
    cases hfound : (Json.object members).get? tool.argument with
    | none => simp [Json.hasMembers, hfound]
    | some found => simp [Json.hasMembers, hfound, Json.isOfType]
  | _ => simp [Json.get?, Json.isOfType]

/-- What is published about the tools agrees with the tools that can be called, in name, argument and
type. -/
theorem all_agrees :
    all.map (fun tool => (tool.name, tool.argument, tool.type)) =
      Tool.all.map fun tool => (tool.name, tool.argument, tool.kind.schemaName) := rfl

/-- Every entry of the published table is about a tool that can be called. -/
theorem exists_tool {published : PublishedTool} (h : published ∈ all) :
    ∃ tool : Tool, published.name = tool.name ∧ published.argument = tool.argument ∧
      published.type = tool.kind.schemaName := by
  have hmem := List.mem_map_of_mem (f := fun tool => (tool.name, tool.argument, tool.type)) h
  rw [all_agrees] at hmem
  obtain ⟨tool, -, heq⟩ := List.mem_map.mp hmem
  simp only [Prod.mk.injEq] at heq
  exact ⟨tool, heq.1.symm, heq.2.1.symm, heq.2.2.symm⟩

end PublishedTool

/-! ## Arguments of a kind -/

namespace ArgumentKind

/-- A value is the argument of some kind that it is written for, and no other. -/
theorem ofJson_eq_ok_iff {kind : ArgumentKind} {value : Json}
    (hword : ∀ n : Int, .int n ∈ value.numbers → Json.IsWord64 n) {argument : kind.Value} :
    kind.ofJson value = .ok argument ↔ value = kind.toJson argument := by
  constructor
  · intro h
    cases kind with
    | text =>
      cases value with
      | string text => exact congrArg Json.string (Except.ok.inj h)
      | _ => simp [ofJson] at h
    | number =>
      cases value with
      | number number =>
        cases number with
        | int n =>
          cases n with
          | ofNat n =>
            have hn : n < 2 ^ 64 := by
              have := (hword n (by simp [Json.numbers])).lt
              omega
            have hargument : UInt64.ofNat n = argument := Except.ok.inj h
            rw [← hargument]
            show Json.number (.int n) = .number (.int (UInt64.ofNat n).toNat)
            rw [UInt64.toNat_ofNat_of_lt' hn]
          | negSucc n => simp [ofJson, Json.Number.asWord] at h
        | float value => simp [ofJson, Json.Number.asWord] at h
      | _ => simp [ofJson] at h
  · rintro rfl
    exact ofJson_toJson kind argument

/-- The values of a kind are those of its type in a schema, but for integers that are no words. -/
theorem exists_eq_toJson_iff {kind : ArgumentKind} {value : Json} :
    (∃ argument, value = kind.toJson argument) ↔
      value.isOfType kind.schemaName = true ∧
        ∀ number, value = .number number → ∃ word : UInt64, number = .int word.toNat := by
  constructor
  · rintro ⟨argument, rfl⟩
    cases kind with
    | text => exact ⟨rfl, by simp [toJson]⟩
    | number => exact ⟨rfl, fun number h => ⟨argument, (Json.number.inj h).symm⟩⟩
  · rintro ⟨htype, hword⟩
    cases kind with
    | text =>
      cases value with
      | string text => exact ⟨text, rfl⟩
      | _ => simp [schemaName, Json.isOfType] at htype
    | number =>
      cases value with
      | number number =>
        obtain ⟨word, rfl⟩ := hword number rfl
        exact ⟨word, rfl⟩
      | _ => simp [schemaName, Json.isOfType] at htype

end ArgumentKind

/-! ## Requests -/

namespace Request

/-- **Requests and schemas.**  Every published description of a tool has a name and a schema that
requires one argument.  A tool is called with success by its name and by arguments that meet its
schema, except that a number must be an integer from `0` to `2 ^ 64 - 1`; it is then the tool of the
request, and the value under the required key is its argument. -/
theorem isOk_ofCall_iff_meets {published : List Json} (hpublished : Tool.definitions = .array published)
    {definition : Json} (hdefinition : definition ∈ published) :
    ∃ name key schema, definition.get? "name" = some (.string name) ∧
      definition.get? "inputSchema" = some schema ∧
      schema.get? "required" = some (.array [.string key]) ∧
      ∀ arguments : Json, (∀ n : Int, .int n ∈ arguments.numbers → Json.IsWord64 n) →
        ((∃ request, ofCall name arguments = .ok request) ↔
          schema.meets arguments.canonical = true ∧
            ∀ number, arguments.canonical.get? key = some (.number number) →
              ∃ word : UInt64, number = .int word.toNat) ∧
        ∀ request, ofCall name arguments = .ok request →
          request.tool.name = name ∧
            arguments.canonical.get? key = some (request.tool.kind.toJson request.argument) := by
  obtain rfl : PublishedTool.all.map (·.definition []) = published := Json.array.inj hpublished
  obtain ⟨entry, hentry, rfl⟩ := List.mem_map.mp hdefinition
  obtain ⟨tool, hname, hargument, htype⟩ := PublishedTool.exists_tool hentry
  refine ⟨entry.name, entry.argument, entry.inputSchema [], rfl, rfl, rfl,
    fun arguments hnumbers => ?_⟩
  have hmeets := @PublishedTool.meets_inputSchema_iff entry arguments.canonical
  rw [hargument, htype] at hmeets
  rw [hname, hargument]
  have hword {value : Json} (hvalue : arguments.canonical.get? tool.argument = some value)
      (n : Int) (hn : .int n ∈ value.numbers) : Json.IsWord64 n :=
    hnumbers n (Json.mem_numbers_of_canonical (Json.mem_numbers_of_get? hvalue hn))
  refine ⟨⟨?_, ?_⟩, ?_⟩
  · rintro ⟨request, h⟩
    obtain ⟨value, argument, hvalue, hargument, -⟩ := ofCall_eq_ok_iff.mp h
    have heq := (ArgumentKind.ofJson_eq_ok_iff (hword hvalue)).mp hargument
    obtain ⟨htype, hwords⟩ := ArgumentKind.exists_eq_toJson_iff.mp ⟨argument, heq⟩
    refine ⟨hmeets.mpr ⟨value, hvalue, htype⟩, fun number hnumber => ?_⟩
    exact hwords number (Option.some.inj (hvalue.symm.trans hnumber))
  · rintro ⟨hschema, hwords⟩
    obtain ⟨value, hvalue, htype⟩ := hmeets.mp hschema
    obtain ⟨argument, rfl⟩ := ArgumentKind.exists_eq_toJson_iff.mpr
      ⟨htype, fun number hnumber => hwords number (hnumber ▸ hvalue)⟩
    exact ⟨⟨tool, argument⟩, ofCall_eq_ok_iff.mpr
      ⟨_, argument, hvalue, ArgumentKind.ofJson_toJson tool.kind argument, rfl⟩⟩
  · intro request h
    obtain ⟨value, argument, hvalue, hargument, rfl⟩ := ofCall_eq_ok_iff.mp h
    have heq := (ArgumentKind.ofJson_eq_ok_iff (hword hvalue)).mp hargument
    exact ⟨rfl, heq ▸ hvalue⟩

/-- What is published about the search by age. -/
def daysTool : PublishedTool :=
  ⟨"find_recently_modified_files", "List files modified within the last N days.", "days", "integer",
    "Day threshold"⟩

/-- Arguments with a number of days among others. -/
def daysSample (days : Int) : Json :=
  .object [("days", .number (.int days)), ("path", .string "/repo"), ("more", .array [.null])]

theorem isOk_ofCall_iff_meets_daysSample :
    daysTool.definition [] ∈ PublishedTool.all.map (·.definition []) ∧
      (∀ n : Int, .int n ∈ (daysSample 3).numbers → Json.IsWord64 n) ∧
      ((∃ request, ofCall "find_recently_modified_files" (daysSample 3) = .ok request) ↔
        (daysTool.inputSchema []).meets (daysSample 3).canonical = true ∧
          ∀ number, (daysSample 3).canonical.get? "days" = some (.number number) →
            ∃ word : UInt64, number = .int word.toNat) ∧
      ∃ request, ofCall "find_recently_modified_files" (daysSample 3) = .ok request := by
  have hdefinition : daysTool.definition [] ∈ PublishedTool.all.map (·.definition []) :=
    List.mem_map.mpr ⟨_, by decide, rfl⟩
  have hnumbers : ∀ n : Int, .int n ∈ (daysSample 3).numbers → Json.IsWord64 n := by
    intro n hn
    obtain rfl : n = 3 := by simpa [daysSample, Json.numbers, Json.numbers.fields,
      Json.numbers.values] using hn
    exact ⟨by decide, by decide⟩
  obtain ⟨name, key, schema, hname, hschema, hrequired, h⟩ :=
    isOk_ofCall_iff_meets rfl hdefinition
  obtain rfl : "find_recently_modified_files" = name := Json.string.inj (Option.some.inj hname)
  obtain rfl : daysTool.inputSchema [] = schema := Option.some.inj hschema
  obtain rfl : "days" = key := by
    simpa [PublishedTool.inputSchema, daysTool, Json.get?] using hrequired
  have hiff := (h (daysSample 3) hnumbers).1
  refine ⟨hdefinition, hnumbers, hiff, hiff.mpr ⟨by decide, fun number hnumber => ⟨3, ?_⟩⟩⟩
  exact (Json.number.inj (Option.some.inj hnumber)).symm

/-- A negative number of days meets the schema, and the tool refuses it. -/
theorem ofCall_refuses_negativeDays :
    daysTool.definition [] ∈ PublishedTool.all.map (·.definition []) ∧
      (daysTool.definition []).get? "name" =
        some (.string "find_recently_modified_files") ∧
      (daysTool.definition []).get? "inputSchema" =
        some (daysTool.inputSchema []) ∧
      (daysTool.inputSchema []).meets (daysSample (-1)).canonical = true ∧
      ofCall "find_recently_modified_files" (daysSample (-1)) =
        .error (.invalidValue (.number (.int (-1))) "u64") :=
  ⟨List.mem_map.mpr ⟨_, by decide, rfl⟩, rfl, rfl, by decide, by decide⟩

end Request

end CodeSearch
