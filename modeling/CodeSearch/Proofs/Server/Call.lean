import CodeSearch.Proofs.Json.Steps
import CodeSearch.Proofs.Request
import CodeSearch.Server.Answer

/-!
# Calls are read as they were written

A call that is written on one line, with an id and parameters that can be read back, is read as that
call, the two in the form in which values are kept (`Call.ofText_compact`).  The parameters that
stand for a query on a directory lead to that query (`ToolCall.ofParams_params`), and a line that
asks for one is answered with its outcome (`answer_of_asks`).
-/

namespace CodeSearch.Server

open Json (EndsNumber Readable skipBlanks skipBlanks_cons compactChars_object)

/-- The form in which a value that may be `null` is kept. -/
def kept : Json → Option Json
  | .null => none
  | value => some value.canonical

/-- A value is kept as it is, but for the order of its members. -/
theorem kept_getD (value : Json) : (kept value).getD .null = value.canonical := by
  cases value <;> rfl

theorem kept_of_ne_null {value : Json} (h : value ≠ .null) : kept value = some value.canonical := by
  cases value with
  | null => exact absurd rfl h
  | _ => rfl

namespace Call

/-- A call of a method as a JSON value. -/
def toJson (id : Json) (method : String) (params : Json) : Json :=
  .object [("jsonrpc", .string "2.0"), ("id", id), ("method", .string method), ("params", params)]

/-- What a member that is read for the first time leads to. -/
theorem exists_of_readFirst {α : Type} {seen : Bool} {again : JsonError} {text : List Char}
    {read : List Char → Except JsonError (α × List Char)} (make : α → Members)
    {r : Members × List Char}
    (h : (if seen then .error again else do
      let (value, rest) ← read (← Json.readColon text)
      .ok (make value, rest)) = Except.ok r) :
    seen = false ∧ ∃ behind, Json.readColon text = .ok behind ∧
      ∃ value, read behind = .ok (value, r.2) ∧ r.1 = make value := by
  split at h
  case isTrue => simp at h
  case isFalse hfirst =>
    obtain ⟨behind, hcolon, h⟩ := Json.exists_of_bind_eq_ok h
    obtain ⟨⟨value, rest⟩, hread, h⟩ := Json.exists_of_bind_eq_ok h
    obtain rfl := Except.ok.inj h
    exact ⟨by simpa using hfirst, behind, hcolon, value, hread, rfl⟩

/-- What reading a member of a call is: a new member of the call, or one that is passed over. -/
theorem readMember_cases {found : Members} {key : String} {text : List Char}
    {r : Members × List Char} (h : readMember found key text = .ok r) :
    ∃ behind, Json.readColon text = .ok behind ∧
      ((key = "jsonrpc" ∧ found.version = none ∧ ∃ version,
          Json.readText "a string" behind = .ok (version, r.2) ∧
          r.1 = { found with version := some version }) ∨
        (key = "id" ∧ found.id = none ∧ ∃ id, readValue behind = .ok (id, r.2) ∧
          r.1 = { found with id := some id }) ∨
        (key = "method" ∧ found.method = none ∧ ∃ method,
          Json.readText "a string" behind = .ok (method, r.2) ∧
          r.1 = { found with method := some method }) ∨
        (key = "params" ∧ found.params = none ∧ ∃ params, readValue behind = .ok (params, r.2) ∧
          r.1 = { found with params := some params }) ∨
        (key ∉ ["jsonrpc", "id", "method", "params"] ∧ Json.skipValue behind = .ok r.2 ∧
          r.1 = found)) := by
  rw [readMember] at h
  split at h
  case isTrue hkey =>
    obtain ⟨hfirst, behind, hcolon, hread⟩ :=
      exists_of_readFirst (fun version => { found with version := some version }) h
    exact ⟨behind, hcolon, .inl ⟨hkey, by simpa using hfirst, hread⟩⟩
  split at h
  case isTrue hkey =>
    obtain ⟨hfirst, behind, hcolon, hread⟩ :=
      exists_of_readFirst (fun id => { found with id := some id }) h
    exact ⟨behind, hcolon, .inr (.inl ⟨hkey, by simpa using hfirst, hread⟩)⟩
  split at h
  case isTrue hkey =>
    obtain ⟨hfirst, behind, hcolon, hread⟩ :=
      exists_of_readFirst (fun method => { found with method := some method }) h
    exact ⟨behind, hcolon, .inr (.inr (.inl ⟨hkey, by simpa using hfirst, hread⟩))⟩
  split at h
  case isTrue hkey =>
    obtain ⟨hfirst, behind, hcolon, hread⟩ :=
      exists_of_readFirst (fun params => { found with params := some params }) h
    exact ⟨behind, hcolon, .inr (.inr (.inr (.inl ⟨hkey, by simpa using hfirst, hread⟩)))⟩
  case isFalse hversion hid hmethod hparams =>
    obtain ⟨behind, hcolon, h⟩ := Json.exists_of_bind_eq_ok h
    obtain ⟨rest, hskip, h⟩ := Json.exists_of_bind_eq_ok h
    obtain rfl := Except.ok.inj h
    exact ⟨behind, hcolon,
      .inr (.inr (.inr (.inr ⟨by simp [hversion, hid, hmethod, hparams], hskip, rfl⟩)))⟩

/-- The id of a call is that of its members, if they have one. -/
theorem id_of_ofMembers {found : Members} {call : Call} (h : ofMembers found = .ok call) :
    call.id = found.id.join := by
  rw [ofMembers] at h
  split at h
  case h_1 => simp at h
  case h_2 => simp at h
  case h_3 =>
    obtain rfl := Except.ok.inj h
    rfl

/-- A call that is a list has its version for the first item and its id for the second one. -/
theorem exists_of_readList {text : List Char} {r : Call × List Char} (h : readList text = .ok r) :
    ∃ first second behind rest, itemAt 0 text = .ok first ∧
      Json.readText "a string" first = .ok (r.1.version, behind) ∧ itemAt 1 behind = .ok second ∧
      readValue second = .ok (r.1.id, rest) := by
  rw [readList] at h
  obtain ⟨first, hfirst, h⟩ := Json.exists_of_bind_eq_ok h
  obtain ⟨⟨version, behind⟩, hversion, h⟩ := Json.exists_of_bind_eq_ok h
  obtain ⟨second, hsecond, h⟩ := Json.exists_of_bind_eq_ok h
  obtain ⟨⟨id, rest⟩, hid, h⟩ := Json.exists_of_bind_eq_ok h
  obtain ⟨_, -, h⟩ := Json.exists_of_bind_eq_ok h
  obtain ⟨⟨_, _⟩, -, h⟩ := Json.exists_of_bind_eq_ok h
  obtain ⟨_, -, h⟩ := Json.exists_of_bind_eq_ok h
  obtain ⟨⟨_, _⟩, -, h⟩ := Json.exists_of_bind_eq_ok h
  obtain ⟨_, -, h⟩ := Json.exists_of_bind_eq_ok h
  obtain rfl := Except.ok.inj h
  exact ⟨first, second, behind, rest, hfirst, hversion, hsecond, hid⟩

/-- Behind an `n` there is nothing but `null`, and `null` is nowhere else. -/
theorem null_cases {depth : Nat} {text : List Char} {r : Json × List Char}
    (h : Json.readValue depth text = .ok r) :
    (∃ behind, skipBlanks text = 'n' :: behind ∧ Json.readWord "ull".toList behind = .ok r.2 ∧
      r.1 = .null) ∨
    ((∀ behind, skipBlanks text ≠ 'n' :: behind) ∧ r.1 ≠ .null) := by
  cases Json.readsValue_of_readValue h with
  | null htext hword => exact .inl ⟨_, htext, hword, rfl⟩
  | yes htext => exact .inr ⟨by simp [htext], by simp⟩
  | no htext => exact .inr ⟨by simp [htext], by simp⟩
  | number htext hc =>
    refine .inr ⟨fun behind hn => ?_, by simp⟩
    rw [htext] at hn
    obtain ⟨rfl, -⟩ := List.cons.inj hn
    simp at hc
  | string htext => exact .inr ⟨by simp [htext], by simp⟩
  | array htext hitems =>
    obtain ⟨items, hitems⟩ := Json.exists_append_of_readItems hitems
    exact .inr ⟨by simp [htext], by simp [hitems]⟩
  | object htext => exact .inr ⟨by simp [htext], by simp⟩

/-- A value that may be `null` is kept as it was read. -/
theorem readValue_of_readValue {text : List Char} {r : Json × List Char}
    (h : Json.readValue (Json.maxDepth - 1) text = .ok r) : readValue text = .ok (kept r.1, r.2) := by
  rcases null_cases h with ⟨behind, htext, hword, hnull⟩ | ⟨htext, hnull⟩
  · rw [readValue, Json.readOptional, htext]
    simp only [hword, bind, Except.bind, hnull]
    rfl
  · have hoptional : Json.readOptional (Json.maxDepth - 1) text = .ok (some r.1, r.2) := by
      rw [Json.readOptional]
      split
      case h_1 behind heq => exact absurd heq (htext behind)
      case h_2 =>
        rw [Json.readValue_skipBlanks, h]
        rfl
    rw [readValue, hoptional, kept_of_ne_null hnull]
    rfl

/-- A value that may be `null` is kept as it was written. -/
theorem readValue_compactChars {value : Json} (h : Readable (Json.maxDepth - 1) value)
    {rest : List Char} (hrest : EndsNumber rest) :
    readValue (value.compactChars ++ rest) = .ok (kept value, rest) :=
  readValue_of_readValue (h.isReadBack rest hrest)

/-- A call is read as it was written on one line. -/
theorem ofText_compact {id params : Json} (hid : Readable (Json.maxDepth - 1) id)
    (hparams : Readable (Json.maxDepth - 1) params) (method : String) :
    ofText (toJson id method params).compact = .ok ⟨"2.0", kept id, method, kept params⟩ := by
  -- each member is read as it was written and is there once
  have hversion : ∀ rest, EndsNumber rest → readMember ⟨none, none, none, none⟩ "jsonrpc"
      (':' :: ((Json.string "2.0").compactChars ++ rest)) =
        .ok (⟨some "2.0", none, none, none⟩, rest) := by
    intro rest _
    rw [readMember, if_pos rfl, if_neg (by simp), Json.readColon_cons]
    simp only [bind, Except.bind, Json.readText_compactChars]
  have hkeptId : ∀ rest, EndsNumber rest → readMember ⟨some "2.0", none, none, none⟩ "id"
      (':' :: (id.compactChars ++ rest)) =
        .ok (⟨some "2.0", some (kept id), none, none⟩, rest) := by
    intro rest hrest
    rw [readMember, if_neg (by decide), if_pos rfl, if_neg (by simp), Json.readColon_cons]
    simp only [bind, Except.bind, readValue_compactChars hid hrest]
  have hmethod : ∀ rest, EndsNumber rest →
      readMember ⟨some "2.0", some (kept id), none, none⟩ "method"
        (':' :: ((Json.string method).compactChars ++ rest)) =
          .ok (⟨some "2.0", some (kept id), some method, none⟩, rest) := by
    intro rest _
    rw [readMember, if_neg (by decide), if_neg (by decide), if_pos rfl, if_neg (by simp),
      Json.readColon_cons]
    simp only [bind, Except.bind, Json.readText_compactChars]
  have hkeptParams : ∀ rest, EndsNumber rest →
      readMember ⟨some "2.0", some (kept id), some method, none⟩ "params"
        (':' :: (params.compactChars ++ rest)) =
          .ok (⟨some "2.0", some (kept id), some method, some (kept params)⟩, rest) := by
    intro rest hrest
    rw [readMember, if_neg (by decide), if_neg (by decide), if_neg (by decide), if_pos rfl,
      if_neg (by simp), Json.readColon_cons]
    simp only [bind, Except.bind, readValue_compactChars hparams hrest]
  have hleads := Json.Leads.cons hversion (.cons hkeptId (.cons hmethod (.cons hkeptParams .nil)))
  have hread : read ((toJson id method params).compactChars ++ []) =
      .ok (⟨"2.0", kept id, method, kept params⟩, []) := by
    rw [toJson, compactChars_object, read, skipBlanks_cons rfl]
    simp only [hleads.foldMembers_fields (Json.length_lt_fields _ []) [], bind, Except.bind]
    rfl
  rw [List.append_nil] at hread
  rw [ofText, Json.compact, String.toList_ofList, hread]
  rfl

end Call

/-! ## Parameters of queries -/

namespace ToolCall

/-- A query on a directory as the parameters of a call. -/
def params (call : ToolCall) : Json :=
  .object [
    ("name", .string call.request.tool.name),
    ("arguments", .object [
      (call.request.tool.argument, call.request.tool.kind.toJson call.request.argument),
      (pathArgument, .string call.root)])]

end ToolCall

/-! ## Lines -/

/-- A call is a list or an object. -/
theorem Call.exists_skipBlanks_of_read {text : List Char} {r : Call × List Char}
    (h : Call.read text = .ok r) :
    ∃ c rest, skipBlanks text = c :: rest ∧ (c = '[' ∨ c = '\x7b') := by
  unfold Call.read at h
  split at h
  case h_1 => simp at h
  case h_2 rest htext => exact ⟨'[', rest, htext, .inl rfl⟩
  case h_3 rest htext => exact ⟨'\x7b', rest, htext, .inr rfl⟩
  case h_4 => simp at h

/-- A line with a call is not blank. -/
theorem isBlankLine_of_ofText {line : String} {call : Call} (h : Call.ofText line = .ok call) :
    isBlankLine line = false := by
  obtain ⟨_, hread⟩ := Json.exists_of_atEnd h
  obtain ⟨c, rest, htext, hc⟩ := Call.exists_skipBlanks_of_read hread
  have hmem : c ∈ line.toList := by
    have hsuffix : skipBlanks line.toList <:+ line.toList := List.dropWhile_suffix _
    rw [htext] at hsuffix
    exact hsuffix.subset List.mem_cons_self
  have hspace : Unicode.isWhiteSpace c = false := by
    rcases hc with rfl | rfl <;> decide
  rw [isBlankLine, List.all_eq_false]
  exact ⟨c, hmem, by rw [hspace]; exact Bool.false_ne_true⟩

/-! ## Lines that ask for a request -/

/-- A line that asks for a request on a directory, with the id that the reply is to have. -/
def Asks (line : String) (id : Json) (root : String) (request : Request) : Prop :=
  ∃ call, Call.ofText line = .ok call ∧ call.version = "2.0" ∧ call.method = "tools/call" ∧
    call.id.getD .null = id ∧ ToolCall.ofParams call.params = .ok ⟨root, request⟩

/-- A query is answered with its outcome as a text, or with what is wrong with the configuration. -/
theorem answer_of_asks (world : World) {line : String} {id : Json} {root : String}
    {request : Request} (h : Asks line id root request) :
    (answer world line).value = some (match Config.discover world root with
      | .ok config => .result id (toolResult (request.run ⟨world, config⟩ root).value)
      | .error e => .fault id ⟨serverFault, e.message⟩) := by
  obtain ⟨call, hline, hversion, hmethod, hid, hparams⟩ := h
  rw [answer, isBlankLine_of_ofText hline, if_neg Bool.false_ne_true, hline]
  have hcall : carryOut world call = (callTool world call.params).map (some <$> ·) := by
    rw [carryOut, if_neg (by simp [hversion]), hmethod, if_neg (by decide), if_neg (by decide),
      if_pos rfl]
  dsimp only
  rw [replyTo, hcall, callTool, hparams, hid]
  simp only [bind, Except.bind, ToolCall.run]
  cases Config.discover world root with
  | error e => rfl
  | ok config => rfl

end CodeSearch.Server
