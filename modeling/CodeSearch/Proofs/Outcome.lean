import CodeSearch.CommandLine.Run
import CodeSearch.Proofs.Json.Pretty
import CodeSearch.Proofs.Server.Reply

/-!
# Outcomes are recovered from what is written

For a client of the server an outcome is written twice: with one item a line, and then as a string in
the reply.  The reader undoes both, whatever the paths of the outcome are made of, so a client that
reads the reply and then the text in it has the value that was written
(`Server.resultOfLine?_resultLine`), and so has a reader of what the command line writes.  From that
value the outcome can be told.
-/

namespace CodeSearch

/-! ## Outcomes as values -/

/-- The status that a value stands for. -/
def ScanStatus.ofJson? (json : Json) : Option ScanStatus :=
  match (json.get? "state").bind Json.asString? with
  | some "complete" => some .complete
  | some "partial" =>
    match json.get? "skipped" with
    | some (.number (.int (.ofNat skipped))) => some (.incomplete skipped)
    | _ => none
  | some "failed" => some .failed
  | _ => none

theorem ScanStatus.ofJson?_toJson (status : ScanStatus) : ofJson? status.toJson = some status := by
  cases status <;> rfl

namespace Outcome

theorem get?_value_toJson (outcome : Outcome) :
    outcome.toJson.get? "value" = some (.array (outcome.value.map .string)) := rfl

theorem get?_status_toJson (outcome : Outcome) :
    outcome.toJson.get? "status" = some outcome.status.toJson := rfl

/-- The value of an outcome tells the outcome. -/
theorem toJson_injective : Function.Injective toJson := by
  intro outcome other heq
  have hvalue : Json.array (outcome.value.map .string) = .array (other.value.map .string) :=
    Option.some.inj (congrArg (Json.get? "value") heq)
  have hstatus : outcome.status.toJson = other.status.toJson :=
    Option.some.inj (congrArg (Json.get? "status") heq)
  -- the paths stand in the value as they are, and the status is decoded
  have hstring : Function.Injective Json.string := fun _ _ h => Json.string.inj h
  have hpaths : outcome.value = other.value :=
    List.map_injective_iff.2 hstring (Json.array.inj hvalue)
  have hsame : outcome.status = other.status := by
    have h := ScanStatus.ofJson?_toJson outcome.status
    rw [hstatus, ScanStatus.ofJson?_toJson] at h
    exact (Option.some.inj h).symm
  obtain ⟨paths, status⟩ := outcome
  obtain ⟨otherPaths, otherStatus⟩ := other
  exact congrArg₂ mk hpaths hsame

/-- An outcome is read as it was written, if its count has no more than 64 bits. -/
theorem readable_toJson {outcome : Outcome} (h : outcome.status.skipped < 2 ^ 64) :
    Json.Readable Json.maxDepth outcome.toJson := by
  have hvalue : Json.Readable 127 (.array (outcome.value.map .string)) := by
    refine .array fun item hitem => ?_
    obtain ⟨path, -, rfl⟩ := List.mem_map.1 hitem
    exact .string path
  have hstatus : Json.Readable 127 outcome.status.toJson := by
    cases hs : outcome.status with
    | complete | failed => exact .object (by simp [Json.Readable.string])
    | incomplete skipped =>
      rw [hs] at h
      have hskipped : Json.IsWord64 skipped := ⟨by omega, by exact_mod_cast h⟩
      exact .object (by simp [Json.Readable.string, Json.nat, Json.Readable.int hskipped])
  refine .object fun m hm => ?_
  rcases List.mem_pair.1 hm with rfl | rfl
  · exact hvalue
  · exact hstatus

end Outcome

/-- What the command line writes for an outcome is read as the outcome. -/
theorem CommandLine.parse_output {outcome : Outcome} (h : outcome.status.skipped < 2 ^ 64)
    (log : Log) : Json.parse (Report.ofOutcome true ⟨outcome, log⟩).output = .ok outcome.toJson :=
  (Outcome.readable_toJson h).parse_pretty (Json.areBlanks_newLine 0)

/-! ## Outcomes in replies -/

namespace Server

/-- What can be the id of a reply: that of a call. -/
def IsReplyId (id : Json) : Prop :=
  ∃ line call, Call.ofText line = .ok call ∧ call.id.getD .null = id

/-- The line that carries an outcome to the client. -/
def resultLine (id : Json) (outcome : Outcome) : String :=
  (Reply.result id (toolResult outcome)).toJson.compact

/-- The line that the server writes in answer to a query carries the outcome of the query. -/
theorem answer_eq_resultLine {world : World} {line root : String} {id : Json} {request : Request}
    {config : Config} (h : Asks line id root request)
    (hconfig : Config.discover world root = .ok config) :
    (answer world line).value.map (fun reply => reply.toJson.compact) =
      some (resultLine id (request.run ⟨world, config⟩ root).value) := by
  rw [answer_of_asks world h, hconfig]
  rfl

/-- The text of the first part of a result. -/
def contentText? (result : Json) : Option String :=
  match result.get? "content" with
  | some (.array (first :: _)) => (first.get? "text").bind Json.asString?
  | _ => none

/-- What a client makes of a reply: it reads the line, and then the text of the result. -/
def resultOfLine? (line : String) : Option Json := do
  let reply ← (Json.parse line).toOption
  let text ← (reply.get? "result").bind contentText?
  (Json.parse text).toOption

theorem contentText?_toolResult (outcome : Outcome) :
    contentText? (toolResult outcome) = some outcome.toJson.pretty := rfl

theorem integersOnly_toolResult (outcome : Outcome) : Json.IntegersOnly (toolResult outcome) := by
  simp [toolResult, Json.integersOnly_object, Json.integersOnly_array, Json.integersOnly_string]

/-- The result in a reply is read as it was written, whatever the id is read as. -/
theorem exists_parse_resultLine {id : Json} (hid : IsReplyId id) (outcome : Outcome) :
    ∃ reply, Json.parse (resultLine id outcome) = .ok reply ∧
      reply.get? "result" = some (toolResult outcome) := by
  obtain ⟨line, call, hcall, rfl⟩ := hid
  have hreply := Reply.legible_result (Call.legible_id hcall) (legible_toolResult outcome)
  obtain ⟨found, hread, hsame⟩ := hreply.exists_readMembers
  exact ⟨_, hread.parse_compact,
    Json.get?_map_found hsame rfl (integersOnly_toolResult outcome)⟩

/-- A client reads the value of the outcome. -/
theorem resultOfLine?_resultLine {id : Json} (hid : IsReplyId id) {outcome : Outcome}
    (h : outcome.status.skipped < 2 ^ 64) :
    resultOfLine? (resultLine id outcome) = some outcome.toJson := by
  obtain ⟨reply, hreply, hresult⟩ := exists_parse_resultLine hid outcome
  have htext : Json.parse (outcome.toJson.pretty ++ "") = .ok outcome.toJson :=
    (Outcome.readable_toJson h).parse_pretty Json.areBlanks_nil
  rw [String.append_empty] at htext
  rw [resultOfLine?, hreply]
  simp only [Except.toOption, Option.bind_eq_bind, Option.bind_some, hresult,
    contentText?_toolResult, htext]

end Server

/-- **Outcomes survive their double encoding.**  Whatever the paths and the status of an outcome are,
its count having no more than 64 bits, a client that reads the line of the reply and then the text in
its result has an object with exactly the paths, in order, and with a status that tells the status of
the outcome; what the command line writes is read as the same object.  So the lines for two outcomes
under one id differ.  Such a line is what the server writes in answer to a query with the outcome. -/
theorem outcome_recovered {id : Json} (hid : Server.IsReplyId id) {outcome : Outcome}
    (hskipped : outcome.status.skipped < 2 ^ 64) :
    (∃ object, Server.resultOfLine? (Server.resultLine id outcome) = some object ∧
      object.get? "value" = some (.array (outcome.value.map .string)) ∧
      (object.get? "status").bind ScanStatus.ofJson? = some outcome.status ∧
      ∀ log, Json.parse (CommandLine.Report.ofOutcome true ⟨outcome, log⟩).output = .ok object) ∧
    (∀ other : Outcome, other.status.skipped < 2 ^ 64 →
      Server.resultLine id other = Server.resultLine id outcome → other = outcome) ∧
    ∀ world line root request config, Server.Asks line id root request →
      Config.discover world root = .ok config →
      (request.run ⟨world, config⟩ root).value = outcome →
        (Server.answer world line).value.map (fun reply => reply.toJson.compact) =
          some (Server.resultLine id outcome) := by
  have hline := Server.resultOfLine?_resultLine hid hskipped
  refine ⟨⟨outcome.toJson, hline, outcome.get?_value_toJson, ?_, CommandLine.parse_output hskipped⟩,
    fun other hother heq => ?_, fun world line root request config hasks hconfig houtcome => ?_⟩
  · rw [outcome.get?_status_toJson]
    exact outcome.status.ofJson?_toJson
  · have hsame := Server.resultOfLine?_resultLine hid hother
    rw [heq, hline] at hsame
    exact (Outcome.toJson_injective (Option.some.inj hsame)).symm
  · rw [← houtcome]
    exact Server.answer_eq_resultLine hasks hconfig

/-- Paths with quotes, backslashes, control characters and characters outside the basic plane. -/
def outcomeSample : Outcome where
  value := ["a\"b\\c.ts", "\x01\n\t.ts", "", "é😀.ts"]
  status := .incomplete 3

theorem outcome_recovered_outcomeSample :
    Server.IsReplyId (.nat 7) ∧
      (∃ object, Server.resultOfLine? (Server.resultLine (.nat 7) outcomeSample) = some object ∧
        object.get? "value" = some (.array
          [.string "a\"b\\c.ts", .string "\x01\n\t.ts", .string "", .string "é😀.ts"]) ∧
        (object.get? "status").bind ScanStatus.ofJson? = some (.incomplete 3)) ∧
      Server.resultLine (.nat 7) { outcomeSample with status := .complete } ≠
        Server.resultLine (.nat 7) outcomeSample := by
  have hid : Server.IsReplyId (.nat 7) := by
    have hreadable : Json.Readable 127 (.nat 7) := .int ⟨by decide, by decide⟩
    exact ⟨_, _, Server.Call.ofText_compact hreadable .null "tools/call", rfl⟩
  have hskipped : outcomeSample.status.skipped < 2 ^ 64 := by decide
  obtain ⟨⟨object, hline, hvalue, hstatus, -⟩, hinjective, -⟩ := outcome_recovered hid hskipped
  refine ⟨hid, ⟨object, hline, hvalue, hstatus⟩, fun heq => ?_⟩
  have hsame := hinjective { outcomeSample with status := .complete } (by decide) heq
  exact absurd hsame (by decide)

end CodeSearch
