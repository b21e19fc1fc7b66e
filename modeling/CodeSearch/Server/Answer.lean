import CodeSearch.Config.Decode
import CodeSearch.Query.Dispatch
import CodeSearch.Server.Message
import CodeSearch.Text.Os

/-!
# The server

The server answers the lines that a client sends, each by itself: `answer` is the reply to a line, if
it gets one.  A client names the directory to search with every call of a tool, as one more argument.
-/

namespace CodeSearch.Server

/-- The number of a fault of the request. -/
def invalidRequest : Int := -32600

/-- The number of an unknown method. -/
def methodNotFound : Int := -32601

/-- The number of a fault of the parameters. -/
def invalidParams : Int := -32602

/-- The number of a fault of the configuration. -/
def serverFault : Int := -32000

/-- The name of the argument that holds the directory to search. -/
def pathArgument : String := "path"

/-- What the server says of itself. -/
def greeting : Json :=
  .object [
    ("capabilities", .object [("tools", .object [])]),
    ("protocolVersion", .string "2024-11-05"),
    ("serverInfo", .object [("name", .string "scout-mcp"), ("version", .string "0.1.0")])]

/-- The tools with the argument for the directory to search. -/
def toolList : Json :=
  let path : Json := .object [
    ("description", .string "Absolute path of the working directory to search"),
    ("type", .string "string")]
  .object [
    ("tools",
      .array (PublishedTool.all.map fun tool => (tool.definition [(pathArgument, path)]).canonical))]

/-- The result of a tool as a JSON value: its outcome as a text. -/
def toolResult (outcome : Outcome) : Json :=
  .object [
    ("content", .array [
      .object [("text", .string outcome.toJson.pretty), ("type", .string "text")]])]

/-- A query that a client asks for. -/
structure ToolCall where
  /-- The directory to search. -/
  root : String
  /-- The request. -/
  request : Request

/-- The query that parameters ask for. -/
def ToolCall.ofParams (params : Option Json) : Except Fault ToolCall := do
  let some params := params | throw ⟨invalidParams, "Missing params"⟩
  let some name := (params.get? "name").bind Json.asString?
    | throw ⟨invalidParams, "Missing tool name"⟩
  let arguments := (params.get? "arguments").getD (.object [])
  let some root := (arguments.get? pathArgument).bind Json.asString?
    | throw ⟨invalidParams, "Missing required 'path' parameter"⟩
  match Request.ofCall name (arguments.erase pathArgument) with
  | .ok request => .ok ⟨root, request⟩
  | .error cause => throw ⟨invalidParams, (SearchError.badCall name cause).message⟩

/-- Runs a query under the configuration of the directory to search. -/
def ToolCall.run (world : World) (call : ToolCall) : Except Fault (Logged Outcome) :=
  match Config.discover world call.root with
  | .ok config => .ok (call.request.run ⟨world, config⟩ call.root)
  | .error e => .error ⟨serverFault, e.message⟩

/-- Calls a tool. -/
def callTool (world : World) (params : Option Json) : Except Fault (Logged Json) := do
  let call ← ToolCall.ofParams params
  let outcome ← call.run world
  .ok (toolResult <$> outcome)

/-- The result of a call; some calls have none. -/
def carryOut (world : World) (call : Call) : Except Fault (Logged (Option Json)) :=
  if call.version ≠ "2.0" then
    .error ⟨invalidRequest,
      "Invalid request: unsupported jsonrpc version '" ++ call.version ++ "'"⟩
  else if call.method = "initialize" then .ok (pure (some greeting))
  else if call.method = "tools/list" then .ok (pure (some toolList))
  else if call.method = "tools/call" then (callTool world call.params).map (some <$> ·)
  else if call.method = "notifications/initialized" then .ok (pure none)
  else .error ⟨methodNotFound, "Method not found: " ++ call.method⟩

/-- The reply to a call, unless it has no result. -/
def replyTo (world : World) (call : Call) : Logged (Option Reply) :=
  let id := call.id.getD .null
  match carryOut world call with
  | .ok result => Option.map (Reply.result id) <$> result
  | .error fault => pure (some (.fault id fault))

/-- Whether a line has nothing but white space. -/
def isBlankLine (line : String) : Bool := line.toList.all Unicode.isWhiteSpace

/-- The reply to a line; blank lines get none. -/
def answer (world : World) (line : String) : Logged (Option Reply) :=
  if isBlankLine line then pure none
  else match Call.ofText line with
    | .ok call => replyTo world call
    | .error cause => pure (some (.unreadable cause))

/-- The byte at the end of a line. -/
def lineFeed : UInt8 := 10

/-- The byte that may stand before the one at the end of a line. -/
def carriageReturn : UInt8 := 13

/-- The lines of an input; the last one need not be closed. -/
def inputLines (input : OsText) : List OsText :=
  match (Text.splitWhere (· == lineFeed) input.bytes).reverse with
  | [] => []
  | last :: closed =>
    let lines := closed.reverse.map fun line =>
      OsText.mk (if line.getLast? = some carriageReturn then line.dropLast else line)
    if last.isEmpty then lines else lines ++ [⟨last⟩]

/-- The lines up to the first one that is not UTF-8. -/
def decodedLines : List OsText → List String
  | [] => []
  | line :: rest =>
    match line.toText? with
    | some text => text :: decodedLines rest
    | none => []

/-- The lines that the server writes for an input.  It stops at a line that it cannot read. -/
def session (world : World) (input : OsText) : List String :=
  (decodedLines (inputLines input)).filterMap fun line =>
    (answer world line).value.map fun reply => reply.toJson.compact

end CodeSearch.Server
