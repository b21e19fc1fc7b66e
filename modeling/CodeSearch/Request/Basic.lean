import CodeSearch.Json.Reader
import CodeSearch.Request.Tool

/-!
# Requests

A `Request` is a tool with its argument.  `Request.toJson` writes it as an object with the name of the
tool and an object of arguments; `Request.ofCall` reads the two back.  Arguments that the tool does not
know are passed over.
-/

namespace CodeSearch

/-- A tool with its argument. -/
structure Request where
  /-- The tool. -/
  tool : Tool
  /-- Its argument. -/
  argument : tool.kind.Value
  deriving DecidableEq

/-- An argument as a JSON value. -/
def ArgumentKind.toJson : (kind : ArgumentKind) → kind.Value → Json
  | text, value => .string value
  | number, value => .nat value.toNat

/-- The argument of some kind that a JSON value is. -/
def ArgumentKind.ofJson : (kind : ArgumentKind) → Json → Except JsonError kind.Value
  | text, .string value => .ok value
  | text, other => .error (.invalidType other.found "a string")
  | number, .number value => value.asWord
  | number, other => .error (.invalidType other.found "u64")

/-- The tool with a given name. -/
def Tool.ofName (name : String) : Except JsonError Tool :=
  match ofName? name with
  | some tool => .ok tool
  | none => .error (.unknownVariant name (all.map Tool.name))

/-- How messages name the arguments of a tool. -/
def Tool.expectedArguments (tool : Tool) : String :=
  "struct variant ToolRequest::" ++ tool.requestName

namespace Request

/-- A request as a JSON value. -/
def toJson (request : Request) : Json :=
  .object [
    ("name", .string request.tool.name),
    ("arguments", .object [
      (request.tool.argument, request.tool.kind.toJson request.argument)])]

/-- The request for a tool once its arguments are read; its own argument must be among them. -/
def ofArgument (tool : Tool) : Option tool.kind.Value → Except JsonError Request
  | some argument => .ok ⟨tool, argument⟩
  | none => .error (.missingField tool.argument)

/-- Takes the members of an object of arguments one by one, `found` being the argument of the tool if
it was among those before. -/
def ofMembers (tool : Tool) (found : Option tool.kind.Value) :
    List (String × Json) → Except JsonError Request
  | [] => ofArgument tool found
  | (key, value) :: rest =>
    if key = tool.argument then
      if found.isSome then .error (.duplicateField key)
      else do
        let argument ← tool.kind.ofJson value
        ofMembers tool (some argument) rest
    else ofMembers tool found rest

/-- The request for a tool with a JSON value as its arguments. -/
def ofArguments (tool : Tool) : Json → Except JsonError Request
  | .object members => ofMembers tool none members
  | other => .error (.invalidType other.found tool.expectedArguments)

/-- The request for the tool with a given name and a JSON value as its arguments. -/
def ofCall (name : String) (arguments : Json) : Except JsonError Request := do
  let tool ← Tool.ofName name
  ofArguments tool arguments.canonical

end Request

end CodeSearch
