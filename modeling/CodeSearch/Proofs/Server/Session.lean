import CodeSearch.Proofs.Query.Basic
import CodeSearch.Proofs.Server.Lines
import CodeSearch.Proofs.Server.Reply
import CodeSearch.Proofs.Server.RequestId

/-!
# Sessions

What a line adds to the output of a session: nothing if it is blank, one reply without an id if it is no
call (`written_of_error`), and else what `written_cases` says.  Whether a call gets a reply depends on
its method alone, not on its id (`session_answers_by_method`).  The output as a whole is made up of the
replies to the single lines, each of them on a line of its own (`session_framed`).  A line that is not
UTF-8 ends the session: no line behind it is answered.
-/

namespace CodeSearch.Server

open Json (Legible IntegersOnly)

variable {world : World} {line : String}

/-! ## Single lines -/

theorem written_of_isBlankLine (h : isBlankLine line = true) : written world line = none := by
  rw [written, answer, if_pos h]
  rfl

/-- A line that is no call gets a reply without an id. -/
theorem written_of_error {cause : JsonError} (hblank : isBlankLine line = false)
    (h : Call.ofText line = .error cause) :
    written world line = some (Reply.unreadable cause).toJson.compact := by
  rw [written, answer, if_neg (by rw [hblank]; exact Bool.false_ne_true), h]
  rfl

/-- A line with a call gets one reply, under its id, unless the call is the one that gets none. -/
theorem written_cases (world : World) {call : Call} (h : Call.ofText line = .ok call) :
    (call.IsInitialized ∧ written world line = none) ∨
    (¬ call.IsInitialized ∧ ∃ reply : Reply, written world line = some reply.toJson.compact ∧
      reply.id = call.id.getD .null ∧ Legible Json.maxDepth reply.toJson) := by
  have hanswer : answer world line = replyTo world call := by
    rw [answer, if_neg (by rw [isBlankLine_of_ofText h]; exact Bool.false_ne_true), h]
  rw [written, hanswer]
  rcases replyTo_cases world h with ⟨hinitialized, hnone⟩ | ⟨hother, reply, hreply, hid, hlegible⟩
  · exact .inl ⟨hinitialized, by rw [hnone]; rfl⟩
  · exact .inr ⟨hother, reply, by rw [hreply]; rfl, hid, hlegible⟩

/-- What is written for a line is a legible reply. -/
theorem exists_of_written {text : String} (h : written world line = some text) :
    ∃ reply : Reply, text = reply.toJson.compact ∧ Legible Json.maxDepth reply.toJson := by
  cases hblank : isBlankLine line with
  | true =>
    rw [written_of_isBlankLine hblank] at h
    simp at h
  | false =>
    cases hcall : Call.ofText line with
    | error cause =>
      rw [written_of_error hblank hcall] at h
      exact ⟨_, (Option.some.inj h).symm, Reply.legible_unreadable cause⟩
    | ok call =>
      rcases written_cases world hcall with ⟨-, hnone⟩ | ⟨-, reply, hreply, -, hlegible⟩
      · rw [hnone] at h
        simp at h
      · rw [hreply] at h
        exact ⟨reply, (Option.some.inj h).symm, hlegible⟩

/-- The output for a single line. -/
theorem session_eq_toList {input : OsText} (h : inputLines input = [↑line]) :
    session world input = (written world line).toList := by
  rw [session_eq, h, decodedLines, OsText.toText?_ofText]
  cases hwritten : written world line <;> simp [hwritten, decodedLines]

/-! ## Replies by method -/

/-- **Calls are answered by their method.**  A call of `notifications/initialized` adds nothing to the
output of a session, with or without an id; every other call adds exactly one reply, with or without
an id, wherever in the session it stands, as long as the lines before it are UTF-8.  Behind a line that
is not, no call is answered. -/
theorem session_answers_by_method (world : World) {input : OsText} {line : String}
    {before after : List OsText} (hlines : inputLines input = before ++ ↑line :: after) {call : Call}
    (hcall : Call.ofText line = .ok call) :
    ((∀ other ∈ before, other.IsUtf8) →
      (call.version = "2.0" ∧ call.method = "notifications/initialized" →
        ∀ without, inputLines without = before ++ after →
          session world input = session world without) ∧
      (¬(call.version = "2.0" ∧ call.method = "notifications/initialized") →
        ∃ reply, ∀ first second, inputLines first = before → inputLines second = after →
          session world input = session world first ++ reply :: session world second)) ∧
    ((∃ other ∈ before, ¬ other.IsUtf8) → ∀ first, inputLines first = before →
      session world input = session world first) := by
  have hdecoded : decodedLines (↑line :: after) = line :: decodedLines after := by
    rw [decodedLines, OsText.toText?_ofText]
  refine ⟨fun hutf8 => ⟨fun hinitialized without hwithout => ?_, fun hother => ?_⟩,
    fun hbroken first hfirst => ?_⟩
  · rcases written_cases world hcall with ⟨-, hnone⟩ | ⟨hother, -⟩
    · rw [session_eq, session_eq, hlines, hwithout, decodedLines_append hutf8,
        decodedLines_append hutf8, hdecoded, List.filterMap_append, List.filterMap_append,
        List.filterMap_cons_none hnone]
    · exact absurd hinitialized hother
  · rcases written_cases world hcall with ⟨hinitialized, -⟩ | ⟨-, reply, hreply, -, -⟩
    · exact absurd hinitialized hother
    · refine ⟨reply.toJson.compact, fun first second hfirst hsecond => ?_⟩
      rw [session_eq, session_eq, session_eq, hlines, hfirst, hsecond, decodedLines_append hutf8,
        hdecoded, List.filterMap_append, List.filterMap_cons_some hreply]
  · rw [session_eq, session_eq, hlines, hfirst, decodedLines_append_of_broken hbroken]

/-- A notification: a call without an id. -/
def notification (method : String) : Json :=
  .object [("jsonrpc", .string "2.0"), ("method", .string method)]

/-- Three notifications, of which the last one is not answered. -/
def notificationSample : List Json :=
  [notification "ping", notification "notifications/cancelled",
    notification "notifications/initialized"]

/-- The lines that are written for values, each on a line of its own. -/
def sessionOf (values : List Json) : List String :=
  session (.ofEntries []) (closedLines (values.map Json.compact))

/-- A line that is not UTF-8, and a notification behind it. -/
def brokenSample : OsText := .mk [0xff] ++ "\n" ++ ((notification "ping").compact ++ "\n" : OsText)

theorem inputLines_brokenSample :
    inputLines brokenSample = [OsText.mk [0xff]] ++ [OsText.ofText (notification "ping").compact] :=
  (inputLines_append ⟨[0xff]⟩ _).trans (congrArg _ (inputLines_compact _))

theorem session_answers_by_method_notificationSample :
    sessionOf notificationSample = sessionOf (notificationSample.take 2) ∧
      (∃ reply, sessionOf notificationSample =
        sessionOf (notificationSample.take 1) ++ reply :: sessionOf (notificationSample.drop 2)) ∧
      session (.ofEntries []) brokenSample = session (.ofEntries []) ⟨[0xff]⟩ := by
  have hlines := inputLines_closedLines notificationSample
  have hping : Call.ofText (notification "ping").compact = .ok ⟨"2.0", none, "ping", none⟩ := rfl
  have hcancelled : Call.ofText (notification "notifications/cancelled").compact =
      .ok ⟨"2.0", none, "notifications/cancelled", none⟩ := rfl
  have hinitialized : Call.ofText (notification "notifications/initialized").compact =
      .ok ⟨"2.0", none, "notifications/initialized", none⟩ := rfl
  have hutf8 (values : List Json) :
      ∀ other ∈ values.map fun value => (value.compact : OsText), other.IsUtf8 := by
    intro other hother
    obtain ⟨value, -, rfl⟩ := List.mem_map.mp hother
    exact OsText.isUtf8_ofText _
  refine ⟨((@session_answers_by_method (.ofEntries []) _ _
    ((notificationSample.take 2).map fun value => ↑value.compact) [] hlines _ hinitialized).1
      (hutf8 _)).1 ⟨rfl, rfl⟩ _ (inputLines_closedLines _), ?_, ?_⟩
  · obtain ⟨reply, hreply⟩ := ((@session_answers_by_method (.ofEntries []) _ _
      ((notificationSample.take 1).map fun value => ↑value.compact)
      ((notificationSample.drop 2).map fun value => ↑value.compact) hlines _ hcancelled).1
        (hutf8 _)).2 (by decide)
    exact ⟨reply, hreply _ _ (inputLines_closedLines _) (inputLines_closedLines _)⟩
  · exact (session_answers_by_method (.ofEntries []) inputLines_brokenSample hping).2
      ⟨_, List.mem_singleton_self _, by decide⟩ _ rfl

/-- A notification is answered: the call has no id, and yet there is a line of output for it. -/
theorem session_answers_cancelledNotification :
    Call.ofText (notification "notifications/cancelled").compact =
        .ok ⟨"2.0", none, "notifications/cancelled", none⟩ ∧
      session (.ofEntries []) "" = [] ∧
      session (.ofEntries [])
          ((notification "notifications/cancelled").compact ++ "\n" : OsText) =
        [Json.compact (.object [("jsonrpc", .string "2.0"), ("id", .null),
          ("error", .object [("code", .number (.int (-32601))),
            ("message", .string "Method not found: notifications/cancelled")])])] := by
  have hcall : Call.ofText (notification "notifications/cancelled").compact =
      .ok ⟨"2.0", none, "notifications/cancelled", none⟩ := rfl
  refine ⟨hcall, rfl, ?_⟩
  rw [session_eq_toList (inputLines_compact _)]
  decide +kernel

/-! ## Framing -/

/-- **Framing and correlation.**  The output for a sequence of lines is made up of the outputs for the
single lines, in their order, up to the first line that is not UTF-8, at which the session ends.  Every
line of output is a reply: one JSON object, with `"2.0"` for its version and either a result or an
error.  A blank line gets no reply, a line that is no call the one for a parse error, without an id, and
a call at most one reply, which carries its id as long as the numbers in it are integers; where the line
is a JSON text, that is the id of the request as it stands there. -/
theorem session_framed (world : World) :
    (∀ (lines : List String) (last : OsText), session world (closedLines lines ++ last) =
      (lines.flatMap fun line : String => session world (line ++ "\n" : OsText)) ++
        session world last) ∧
    (∀ broken rest : OsText, lineFeed ∉ broken.bytes → ¬ broken.IsUtf8 →
      session world (broken ++ "\n" ++ rest) = [] ∧ session world broken = []) ∧
    (∀ input, ∀ reply ∈ session world input, ∃ members, IsReplyLine reply members) ∧
    (∀ (input : OsText) (line : String), inputLines input = [↑line] →
      (isBlankLine line = true → session world input = []) ∧
      (∀ cause, isBlankLine line = false → Call.ofText line = .error cause →
        ∃ reply message, session world input = [reply] ∧
          Json.parse reply = .ok (.object [
            ("error", .object [("code", .number (.int (-32700))), ("message", .string message)]),
            ("id", .null),
            ("jsonrpc", .string "2.0")])) ∧
      (∀ call, Call.ofText line = .ok call →
        (session world input).length ≤ 1 ∧
        (IntegersOnly (call.id.getD .null) → ∀ reply ∈ session world input,
          ∃ members, Json.parse reply = .ok (.object members) ∧
            (Json.object members).get? "id" = some (call.id.getD .null)) ∧
        ∀ value, Json.parse line = .ok value → call.id.getD .null = requestId value)) := by
  refine ⟨session_closedLines world, fun broken rest hfeed hbroken => ?_, fun input reply hreply => ?_,
    fun input line hline => ⟨?_, ?_, ?_⟩⟩
  · exact session_of_broken hfeed hbroken world rest
  · rw [session_eq] at hreply
    obtain ⟨line, -, hwritten⟩ := List.mem_filterMap.mp hreply
    obtain ⟨made, rfl, hlegible⟩ := exists_of_written hwritten
    obtain ⟨members, hmembers, -⟩ := Reply.exists_isReplyLine hlegible
    exact ⟨members, hmembers⟩
  · intro hblank
    rw [session_eq_toList hline, written_of_isBlankLine hblank]
    rfl
  · intro cause hblank hcall
    refine ⟨_, _, ?_, Reply.parse_unreadable cause⟩
    rw [session_eq_toList hline, written_of_error hblank hcall]
    rfl
  · intro call hcall
    rw [session_eq_toList hline]
    refine ⟨Option.length_toList_le, fun hints reply hreply => ?_, fun value hvalue =>
      Call.id_eq_requestId hvalue hcall⟩
    rcases written_cases world hcall with ⟨-, hnone⟩ | ⟨-, made, hmade, hid, hlegible⟩
    · rw [hnone] at hreply
      simp at hreply
    · rw [hmade, Option.toList_some, List.mem_singleton] at hreply
      obtain ⟨members, hmembers, hsame⟩ := Reply.exists_isReplyLine hlegible
      refine ⟨members, hreply ▸ hmembers.parse_eq, ?_⟩
      rw [← hid] at hints ⊢
      exact hsame hints

/-- The id of a request with texts, a list and an object in it. -/
def idSample : Json :=
  .object [("a", .string "\"\n\x00"), ("b", .array [.nat 18446744073709551615, .null])]

theorem readable_idSample (depth : Nat) : Json.Readable (depth + 4) idSample := by
  refine .object fun m hm => ?_
  rcases List.mem_pair.mp hm with rfl | rfl
  · exact .string _
  · refine .array fun item hitem => ?_
    rcases List.mem_pair.mp hitem with rfl | rfl
    · exact .int ⟨by decide, by decide⟩
    · exact .null

/-- A request with that id for an unknown method. -/
def idSampleLine : String := (Call.toJson idSample "no such\nmethod" .null).compact

theorem session_framed_idSample :
    session (.ofEntries []) " \t\n" = [] ∧
      session (.ofEntries []) (⟨[0xff]⟩ ++ "\n" ++ "[1]\n") = [] ∧
      (∃ reply message, session (.ofEntries []) "[1]\n" = [reply] ∧
        Json.parse reply = .ok (.object [
          ("error", .object [("code", .number (.int (-32700))), ("message", .string message)]),
          ("id", .null),
          ("jsonrpc", .string "2.0")])) ∧
      (session (.ofEntries []) (idSampleLine ++ "\n" : OsText)).length = 1 ∧
      ∀ reply ∈ session (.ofEntries []) (idSampleLine ++ "\n" : OsText),
        ∃ members, Json.parse reply = .ok (.object members) ∧
          (Json.object members).get? "id" = some idSample := by
  obtain ⟨-, hbroken, -, hlines⟩ := session_framed (.ofEntries [])
  have hblank := (hlines " \t\n" " \t" (by decide +kernel)).1 (by decide)
  have hlist := (hlines "[1]\n" "[1]" (by decide +kernel)).2.1
    (.invalidType (.number (.int 1)) "a string") (by decide) rfl
  have hcall : Call.ofText idSampleLine = .ok ⟨"2.0", some idSample, "no such\nmethod", none⟩ :=
    Call.ofText_compact (readable_idSample _) .null _
  have hints : IntegersOnly idSample := by
    simp [idSample, Json.integersOnly_object, Json.integersOnly_array, Json.integersOnly_string,
      Json.integersOnly_null, Json.nat, Json.integersOnly_int]
  have hline : inputLines (idSampleLine ++ "\n" : OsText) = [↑idSampleLine] := inputLines_compact _
  have hid := ((hlines _ _ hline).2.2 _ hcall).2.1 hints
  refine ⟨hblank, (hbroken ⟨[0xff]⟩ "[1]\n" (by decide) (by decide)).1, hlist, ?_, hid⟩
  rcases written_cases (.ofEntries []) hcall with ⟨hinitialized, -⟩ | ⟨-, reply, hreply, -, -⟩
  · exact absurd hinitialized.2 (by decide)
  · rw [session_eq_toList hline, hreply]
    rfl

/-- A request whose id is an integer that is written with a fraction. -/
def fractionLine : String :=
  "\x7b\"jsonrpc\":\"2.0\",\"id\":9007199254740993.0,\"method\":\"x\"\x7d"

/-- A reply is lost behind a line that is not UTF-8, and an integer in an id is not given back if it is
written with a fraction. -/
theorem session_differs_from_lines :
    session (.ofEntries []) brokenSample = [] ∧
      (session (.ofEntries []) ((notification "ping").compact ++ "\n" : OsText)).length = 1 ∧
      session (.ofEntries []) (fractionLine ++ "\n" : OsText) =
        ["\x7b\"jsonrpc\":\"2.0\",\"id\":9007199254740994.0,\"error\":\x7b\"code\":-32601," ++
          "\"message\":\"Method not found: x\"\x7d\x7d"] := by
  refine ⟨(session_of_broken (by decide) (by decide) _ _).1, ?_, ?_⟩
  · decide +kernel
  · decide +kernel

end CodeSearch.Server
