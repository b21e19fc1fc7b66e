import CodeSearch.Proofs.Json.Legible
import CodeSearch.Proofs.Json.OneLine
import CodeSearch.Proofs.Server.Call

/-!
# Replies are lines with one JSON object

Everything that goes into a reply is legible: what the server has read from the line, what it makes of a
tool's outcome, and texts.  So each reply is one line with an object in it that has the members of a
reply (`Reply.exists_isReplyLine`), and the id of the call as it was if its numbers are integers.
-/

namespace CodeSearch.Server

open Json (Legible IntegersOnly exists_of_bind_eq_ok)

/-! ## Ids -/

namespace Call

theorem legible_of_readValue {text : List Char} {r : Option Json × List Char}
    (h : readValue text = .ok r) : ∀ value ∈ r.1, Legible (Json.maxDepth - 1) value := by
  obtain ⟨⟨found, rest⟩, hread, heq⟩ := exists_of_bind_eq_ok h
  obtain rfl := Except.ok.inj heq
  rw [Json.readOptional] at hread
  split at hread
  case h_1 =>
    obtain ⟨_, -, heq⟩ := exists_of_bind_eq_ok hread
    obtain ⟨rfl, -⟩ := Prod.mk.inj (Except.ok.inj heq)
    simp
  case h_2 =>
    obtain ⟨⟨value, _⟩, hvalue, heq⟩ := exists_of_bind_eq_ok hread
    obtain ⟨rfl, -⟩ := Prod.mk.inj (Except.ok.inj heq)
    have hlegible := (Json.legible_of_readValue hvalue).canonical
    simpa using hlegible

/-- The members of a call whose id is legible if it is there. -/
def HasLegibleId (found : Members) : Prop :=
  ∀ id ∈ found.id, ∀ value ∈ id, Legible (Json.maxDepth - 1) value

theorem hasLegibleId_of_readMember (found : Members) (key : String) (text : List Char)
    (r : Members × List Char) (h : HasLegibleId found) (hread : readMember found key text = .ok r) :
    HasLegibleId r.1 := by
  obtain ⟨_, -, ⟨-, -, _, -, hfound⟩ | ⟨-, -, _, hid, hfound⟩ | ⟨-, -, _, -, hfound⟩ |
    ⟨-, -, _, -, hfound⟩ | ⟨-, -, hfound⟩⟩ := readMember_cases hread
  · exact hfound ▸ h
  · rw [hfound]
    rintro id ⟨⟩
    exact legible_of_readValue hid
  · exact hfound ▸ h
  · exact hfound ▸ h
  · exact hfound ▸ h

/-- The id of a call is legible. -/
theorem legible_id {line : String} {call : Call} (h : ofText line = .ok call) :
    Legible (Json.maxDepth - 1) (call.id.getD .null) := by
  obtain ⟨_, h⟩ := Json.exists_of_atEnd h
  suffices hid : ∀ value ∈ call.id, Legible (Json.maxDepth - 1) value by
    cases hcall : call.id with
    | none => exact .null
    | some value => exact hid value hcall
  rw [read] at h
  split at h
  case h_1 => simp at h
  case h_2 =>
    obtain ⟨_, _, _, _, -, -, -, hid⟩ := exists_of_readList h
    exact legible_of_readValue hid
  case h_3 =>
    obtain ⟨⟨found, _⟩, hfound, h⟩ := exists_of_bind_eq_ok h
    obtain ⟨made, hmade, h⟩ := exists_of_bind_eq_ok h
    obtain ⟨rfl, -⟩ := Prod.mk.inj (Except.ok.inj h)
    have hstart : HasLegibleId {} := by
      rintro id ⟨⟩
    have hlegible : HasLegibleId found :=
      Json.invariant_of_foldMembers hasLegibleId_of_readMember hstart hfound
    rw [id_of_ofMembers hmade]
    intro value hvalue
    exact hlegible (some value) (Option.join_eq_some_iff.mp hvalue) value rfl
  case h_4 => simp at h

end Call

/-! ## Results -/

/-- An object of texts is legible. -/
theorem legible_texts {depth : Nat} {members : List (String × Json)}
    (h : ∀ m ∈ members, ∃ text, m.2 = .string text) : Legible (depth + 2) (.object members) := by
  refine .object fun m hm => ?_
  obtain ⟨text, htext⟩ := h m hm
  exact htext ▸ .string text

/-- An object with three members is legible if they are. -/
theorem legible_members {depth : Nat} {first second third : Json} {a b c : String}
    (hfirst : Legible (depth + 1) first) (hsecond : Legible (depth + 1) second)
    (hthird : Legible (depth + 1) third) :
    Legible (depth + 2) (.object [(a, first), (b, second), (c, third)]) := by
  refine .object fun m hm => ?_
  simp only [List.mem_cons, List.not_mem_nil, or_false] at hm
  rcases hm with rfl | rfl | rfl
  · exact hfirst
  · exact hsecond
  · exact hthird

theorem legible_greeting : Legible (Json.maxDepth - 1) greeting :=
  legible_members (.object (List.forall_mem_singleton.mpr (.object nofun))) (.string _)
    (legible_texts (by simp))

/-- The definition of a tool is legible, with one more argument that is. -/
theorem legible_definition (tool : PublishedTool) {argument : Json} {depth : Nat}
    (h : Legible (depth + 2) argument) (key : String) :
    Legible (depth + 5) (tool.definition [(key, argument)]) := by
  have hproperties : ∀ m ∈ Json.insertMember key argument [(tool.argument, .object [
      ("description", .string tool.argumentDescription),
      ("type", .string tool.type)])], Legible (depth + 2) m.2 := by
    intro m hm
    rcases Json.eq_or_mem_of_mem_insertMember hm with rfl | hm
    · exact h
    · rw [List.mem_singleton.mp hm]
      exact legible_texts (by simp)
  have hrequired : ∀ item ∈ [Json.string tool.argument, .string key], Legible (depth + 2) item := by
    simp [Legible.string]
  refine legible_members (.string _) (.string _) ?_
  exact legible_members (.object hproperties) (.array hrequired) (.string _)

theorem legible_toolList : Legible (Json.maxDepth - 1) toolList := by
  refine .object (List.forall_mem_singleton.mpr (.array fun item hitem => ?_))
  obtain ⟨tool, -, rfl⟩ := List.mem_map.mp hitem
  exact (legible_definition tool (legible_texts (by simp)) pathArgument).canonical

theorem legible_toolResult (outcome : Outcome) : Legible (Json.maxDepth - 1) (toolResult outcome) :=
  .object (List.forall_mem_singleton.mpr
    (.array (List.forall_mem_singleton.mpr (legible_texts (by simp)))))

/-! ## Calls -/

/-- The numbers of the faults of calls. -/
def faultCodes : List Int := [invalidRequest, methodNotFound, invalidParams, serverFault]

theorem isWord64_of_mem_faultCodes {code : Int} (h : code ∈ faultCodes) : Json.IsWord64 code := by
  simp only [faultCodes, List.mem_cons, List.not_mem_nil, or_false] at h
  rcases h with rfl | rfl | rfl | rfl <;> exact ⟨by decide, by decide⟩

theorem ToolCall.code_of_ofParams {params : Option Json} {fault : Fault}
    (h : ToolCall.ofParams params = .error fault) : fault.code = invalidParams := by
  unfold ToolCall.ofParams at h
  dsimp only at h
  split at h
  case h_2 => rw [← Except.error.inj h]
  case h_1 params =>
    split at h
    case h_2 => rw [← Except.error.inj h]
    case h_1 name _ =>
      split at h
      case h_2 => rw [← Except.error.inj h]
      case h_1 =>
        split at h
        case h_1 => simp at h
        case h_2 => rw [← Except.error.inj h]

/-- The one kind of call that gets no reply. -/
def Call.IsInitialized (call : Call) : Prop :=
  call.version = "2.0" ∧ call.method = "notifications/initialized"

theorem code_of_callTool {world : World} {params : Option Json} {fault : Fault}
    (h : callTool world params = .error fault) : fault.code ∈ faultCodes := by
  rw [callTool] at h
  cases hparams : ToolCall.ofParams params with
  | error cause =>
    rw [hparams] at h
    obtain rfl := Except.error.inj h
    simp [faultCodes, ToolCall.code_of_ofParams hparams]
  | ok call =>
    simp only [hparams, bind, Except.bind, ToolCall.run] at h
    cases hconfig : Config.discover world call.root with
    | error e =>
      simp only [hconfig] at h
      rw [← Except.error.inj h]
      simp [faultCodes]
    | ok config =>
      simp only [hconfig] at h
      simp at h

/-- A call has a result or a fault, unless it is the one that gets no reply. -/
theorem carryOut_cases (world : World) (call : Call) :
    (call.IsInitialized ∧ carryOut world call = .ok (pure none)) ∨
    (¬ call.IsInitialized ∧
      ((∃ fault, carryOut world call = .error fault ∧ fault.code ∈ faultCodes) ∨
        ∃ result value, carryOut world call = .ok result ∧ result.value = some value ∧
          Legible (Json.maxDepth - 1) value)) := by
  rw [carryOut]
  split
  case isTrue hversion => exact .inr ⟨fun h => hversion h.1, .inl ⟨_, rfl, by simp [faultCodes]⟩⟩
  case isFalse hversion =>
    split
    case isTrue hmethod =>
      refine .inr ⟨fun h => ?_, .inr ⟨_, _, rfl, rfl, legible_greeting⟩⟩
      exact absurd (hmethod.symm.trans h.2) (by decide)
    split
    case isTrue hmethod =>
      refine .inr ⟨fun h => ?_, .inr ⟨_, _, rfl, rfl, legible_toolList⟩⟩
      exact absurd (hmethod.symm.trans h.2) (by decide)
    split
    case isTrue hmethod =>
      refine .inr ⟨fun h => absurd (hmethod.symm.trans h.2) (by decide), ?_⟩
      cases htool : callTool world call.params with
      | error fault => exact .inl ⟨fault, rfl, code_of_callTool htool⟩
      | ok result =>
        obtain ⟨toolCall, -, htool⟩ := exists_of_bind_eq_ok htool
        obtain ⟨outcome, -, heq⟩ := exists_of_bind_eq_ok htool
        obtain rfl := Except.ok.inj heq
        exact .inr ⟨_, _, rfl, rfl, legible_toolResult outcome.value⟩
    split
    case isTrue hmethod => exact .inl ⟨⟨not_not.mp hversion, hmethod⟩, rfl⟩
    case isFalse hmethod => exact .inr ⟨fun h => hmethod h.2, .inl ⟨_, rfl, by simp [faultCodes]⟩⟩

/-! ## Replies -/

/-- What a reply is recognised by. -/
def Reply.id : Reply → Json
  | .unreadable _ => .null
  | .result id _ => id
  | .fault id _ => id

theorem Fault.legible_toJson (fault : Fault) {depth : Nat} (hcode : Json.IsWord64 fault.code) :
    Legible (depth + 2) fault.toJson := by
  refine .object fun m hm => ?_
  rcases List.mem_pair.mp hm with rfl | rfl
  · exact .number hcode
  · exact .string fault.message

theorem Reply.legible_unreadable (cause : JsonError) :
    Legible Json.maxDepth (Reply.unreadable cause).toJson := by
  have hcode : Json.IsWord64 (-32700) := ⟨by decide, by decide⟩
  exact legible_members (Fault.legible_toJson _ hcode) .null (.string _)

theorem Reply.legible_result {id value : Json} (hid : Legible (Json.maxDepth - 1) id)
    (hvalue : Legible (Json.maxDepth - 1) value) :
    Legible Json.maxDepth (Reply.result id value).toJson :=
  legible_members (.string _) hid hvalue

theorem Reply.legible_fault {id : Json} (hid : Legible (Json.maxDepth - 1) id) {cause : Fault}
    (hcode : Json.IsWord64 cause.code) : Legible Json.maxDepth (Reply.fault id cause).toJson :=
  legible_members (.string _) hid (Fault.legible_toJson cause hcode)

/-- A call gets one reply, under its id, unless it is the one that gets none. -/
theorem replyTo_cases (world : World) {line : String} {call : Call}
    (hcall : Call.ofText line = .ok call) :
    (call.IsInitialized ∧ (replyTo world call).value = none) ∨
    (¬ call.IsInitialized ∧ ∃ reply, (replyTo world call).value = some reply ∧
      reply.id = call.id.getD .null ∧ Legible Json.maxDepth reply.toJson) := by
  have hid := Call.legible_id hcall
  rw [replyTo]
  rcases carryOut_cases world call with ⟨hinitialized, hcarry⟩ |
    ⟨hother, ⟨fault, hcarry, hcode⟩ | ⟨result, value, hcarry, hvalue, hlegible⟩⟩
  · rw [hcarry]
    exact .inl ⟨hinitialized, rfl⟩
  · rw [hcarry]
    exact .inr ⟨hother, _, rfl, rfl, Reply.legible_fault hid (isWord64_of_mem_faultCodes hcode)⟩
  · rw [hcarry]
    refine .inr ⟨hother, .result (call.id.getD .null) value, ?_, rfl,
      Reply.legible_result hid hlegible⟩
    show Option.map _ result.value = _
    rw [hvalue]
    rfl

/-- What is written for a reply: one line with an object that has the members of a reply. -/
structure IsReplyLine (line : String) (members : List (String × Json)) : Prop where
  oneLine : '\n' ∉ line.toList
  parse_eq : Json.parse line = .ok (.object members)
  version_eq : (Json.object members).get? "jsonrpc" = some (.string "2.0")
  keys_perm : (members.map (·.1)).Perm ["jsonrpc", "id", "result"] ∨
    (members.map (·.1)).Perm ["jsonrpc", "id", "error"]

/-- A legible reply is written as one line. -/
theorem Reply.exists_isReplyLine {reply : Reply} (h : Legible Json.maxDepth reply.toJson) :
    ∃ members, IsReplyLine reply.toJson.compact members ∧
      (IntegersOnly reply.id → (Json.object members).get? "id" = some reply.id) := by
  obtain ⟨members, hjson, hversion, hid, hkeys⟩ : ∃ members, reply.toJson = .object members ∧
      (Json.object members).get? "jsonrpc" = some (.string "2.0") ∧
      (Json.object members).get? "id" = some reply.id ∧
      ((members.map (·.1)).Perm ["jsonrpc", "id", "result"] ∨
        (members.map (·.1)).Perm ["jsonrpc", "id", "error"]) := by
    cases reply with
    | unreadable cause =>
      have hkeys : ["error", "id", "jsonrpc"].Perm ["jsonrpc", "id", "error"] := by decide
      exact ⟨_, rfl, rfl, rfl, .inr hkeys⟩
    | result id value => exact ⟨_, rfl, rfl, rfl, .inl (List.Perm.refl _)⟩
    | fault id cause => exact ⟨_, rfl, rfl, rfl, .inr (List.Perm.refl _)⟩
  have hline := Json.no_lineFeed_compact reply.toJson
  rw [hjson] at h hline ⊢
  obtain ⟨found, hread, hsame⟩ := h.exists_readMembers
  refine ⟨_, ⟨hline, hread.parse_compact, ?_, ?_⟩, fun hints => Json.get?_map_found hsame hid hints⟩
  · exact Json.get?_map_found hsame hversion (Json.integersOnly_string "2.0")
  · rwa [List.map_map]

/-- A reply to a line that is no call is read as it was. -/
theorem Reply.parse_unreadable (cause : JsonError) :
    Json.parse (Reply.unreadable cause).toJson.compact = .ok (Reply.unreadable cause).toJson := by
  obtain ⟨found, hread, hsame⟩ := (Reply.legible_unreadable cause).exists_readsAs
  rw [hread.parse_compact, hsame ?_]
  simp [Reply.toJson, Fault.toJson, Json.integersOnly_object, Json.integersOnly_int,
    Json.integersOnly_string, Json.integersOnly_null]

end CodeSearch.Server
