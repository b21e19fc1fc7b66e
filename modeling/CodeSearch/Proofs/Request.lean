import CodeSearch.Proofs.Json.Canonical
import CodeSearch.Proofs.Json.RoundTrip
import CodeSearch.Request.Reader

/-!
# Requests are read as they were written

An argument of either kind leads through its JSON value and through its text back to itself, and so
does a request through its text (`Request.ofText_compact`) and through the name of its tool and its
arguments (`Request.ofCall_arguments`).
-/

namespace CodeSearch

open Json (EndsNumber Readable stringChars compactChars_string compactChars_object skipBlanks_cons
  stringChars_append readString_text)

/-! ## Arguments -/

namespace ArgumentKind

theorem readable_toJson {depth : Nat} (kind : ArgumentKind) (value : kind.Value) :
    Readable depth (kind.toJson value) := by
  cases kind with
  | text => exact .string value
  | number => exact .int (Json.isWord64_toNat value)

/-- An argument without parts is in the form in which values are kept. -/
theorem canonical_toJson (kind : ArgumentKind) (value : kind.Value) :
    (kind.toJson value).canonical = kind.toJson value := by
  cases kind <;> rfl

theorem ofJson_toJson (kind : ArgumentKind) (value : kind.Value) :
    kind.ofJson (kind.toJson value) = .ok value := by
  cases kind with
  | text => rfl
  | number => exact congrArg Except.ok (UInt64.ofNat_toNat (x := value))

/-- An argument is read as it was written, if no number goes on behind it. -/
theorem read_toJson (kind : ArgumentKind) (value : kind.Value) {rest : List Char}
    (hrest : EndsNumber rest) :
    kind.read ((kind.toJson value).compactChars ++ rest) = .ok (value, rest) := by
  cases kind with
  | text => exact Json.readText_compactChars "a string" value rest
  | number => exact Json.readWordNumber_compactChars value hrest

end ArgumentKind

/-! ## Texts of requests -/

/-- The name of a tool is read as that tool. -/
theorem Tool.read_name (tool : Tool) (rest : List Char) :
    Tool.read (stringChars tool.name ++ rest) = .ok (tool, rest) := by
  rw [stringChars_append, Tool.read, skipBlanks_cons rfl]
  simp only [readString_text, bind, Except.bind, Tool.ofName, Tool.ofName?_name]

namespace Request

/-- The arguments of a request as a JSON value. -/
def arguments (request : Request) : Json :=
  .object [(request.tool.argument, request.tool.kind.toJson request.argument)]

/-- The arguments of a request are read as that request. -/
theorem readArguments_arguments (request : Request) (rest : List Char) :
    readArguments request.tool (request.arguments.compactChars ++ rest) = .ok (request, rest) := by
  obtain ⟨tool, argument⟩ := request
  have hleads : Json.Leads (readArgument tool) none [(tool.argument, tool.kind.toJson argument)]
      (some argument) := by
    refine .cons (fun rest hrest => ?_) .nil
    rw [readArgument, if_pos rfl, if_neg (by simp), Json.readColon_cons]
    simp only [bind, Except.bind, tool.kind.read_toJson argument hrest]
  rw [arguments, compactChars_object, readArguments, skipBlanks_cons rfl]
  simp only [hleads.foldMembers_fields (Json.length_lt_fields _ rest) rest, bind, Except.bind]
  rfl

/-- Members that lead to a request are read as that request, whatever follows them. -/
theorem read_object {members : List (String × Json)} {request : Request}
    (h : Json.Leads Stage.readMember .start members (.whole request)) (rest : List Char) :
    read ((Json.object members).compactChars ++ rest) = .ok (request, rest) := by
  rw [compactChars_object, read, skipBlanks_cons rfl]
  simp only [h.foldMembers_fields (Json.length_lt_fields _ rest) rest, bind, Except.bind]
  rfl

/-- A request is read as it was written, whatever follows it. -/
theorem read_toJson (request : Request) (rest : List Char) :
    read (request.toJson.compactChars ++ rest) = .ok (request, rest) := by
  have hname : ∀ rest, EndsNumber rest → Stage.readMember .start "name"
      (':' :: ((Json.string request.tool.name).compactChars ++ rest)) =
        .ok (.named request.tool, rest) := by
    intro rest _
    rw [Stage.readMember, if_pos rfl, if_neg (by decide), Json.readColon_cons, compactChars_string]
    simp only [bind, Except.bind, Tool.read_name]
  have harguments : ∀ rest, EndsNumber rest → Stage.readMember (.named request.tool) "arguments"
      (':' :: (request.arguments.compactChars ++ rest)) = .ok (.whole request, rest) := by
    intro rest _
    rw [Stage.readMember, if_neg (by decide), if_pos rfl, if_neg (by simp [Stage.hasArguments]),
      Json.readColon_cons]
    simp only [bind, Except.bind, readArguments_arguments]
  exact read_object (.cons hname (.cons harguments .nil)) rest

/-- Arguments that are kept as a value lead to their request. -/
theorem ofArguments_arguments (request : Request) :
    ofArguments request.tool request.arguments = .ok request := by
  obtain ⟨tool, argument⟩ := request
  show ofMembers tool none [(tool.argument, tool.kind.toJson argument)] = _
  rw [ofMembers, if_pos rfl, if_neg (by simp), ArgumentKind.ofJson_toJson]
  rfl

/-- A value that is read as a request to its end is the text of that request. -/
theorem ofText_of_read {value : Json} {request : Request}
    (h : ∀ rest, read (value.compactChars ++ rest) = .ok (request, rest)) :
    ofText value.compact = .ok request := by
  have hread := h []
  rw [List.append_nil] at hread
  rw [ofText, Json.compact, String.toList_ofList, hread]
  rfl

/-- A request is what its text on one line says. -/
theorem ofText_compact (request : Request) : ofText request.toJson.compact = .ok request :=
  ofText_of_read request.read_toJson

/-- A request is a list or an object. -/
theorem exists_skipBlanks_of_read {text : List Char} {r : Request × List Char}
    (h : read text = .ok r) :
    ∃ c rest, Json.skipBlanks text = c :: rest ∧ (c = '[' ∨ c = '\x7b') := by
  unfold read at h
  split at h
  case h_1 => simp at h
  case h_2 rest htext => exact ⟨'[', rest, htext, .inl rfl⟩
  case h_3 rest htext => exact ⟨'\x7b', rest, htext, .inr rfl⟩
  case h_4 => simp at h

end Request

end CodeSearch
