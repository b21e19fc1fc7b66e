import CodeSearch.Request.Basic

/-!
# Reading requests

`Request.read` reads a request from a JSON text: an object with the members `name` and `arguments`, or
a list of the two.  Members of other names are passed over.  What is wrong is reported where reading
meets it, so arguments are read for their tool if its name stands before them, and are kept as a value
until then if it does not.
-/

namespace CodeSearch

open Json (skipBlanks readString readColon readText foldMembers nextItem endList skipValue mismatch)

/-- Reads the name of a tool: a string, or an object with the name as the key of `null`. -/
def Tool.read (text : List Char) : Except JsonError (Tool × List Char) :=
  match skipBlanks text with
  | [] => .error .endInValue
  | '"' :: rest => do
    let (name, rest) ← readString [] rest
    .ok (← Tool.ofName name, rest)
  | '\x7b' :: rest => do
    let (name, rest) ← readText "variant identifier" rest
    let tool ← Tool.ofName name
    let rest ← readNull (← readColon rest)
    match skipBlanks rest with
    | [] => .error .endInObject
    | '\x7d' :: rest => .ok (tool, rest)
    | _ => .error .expectedValue
  | _ => .error .expectedValue
where
  /-- Reads `null`. -/
  readNull (text : List Char) : Except JsonError (List Char) :=
    match skipBlanks text with
    | [] => .error .endInValue
    | 'n' :: rest => Json.readWord "ull".toList rest
    | text => .error (mismatch "unit" text)

/-- Reads an argument of some kind. -/
def ArgumentKind.read : (kind : ArgumentKind) → List Char → Except JsonError (kind.Value × List Char)
  | text => readText "a string"
  | number => Json.readWordNumber

namespace Request

/-- Reads the value of an argument; `found` is the argument of the tool if it came before. -/
def readArgument (tool : Tool) (found : Option tool.kind.Value) (key : String) (text : List Char) :
    Except JsonError (Option tool.kind.Value × List Char) :=
  if key = tool.argument then
    if found.isSome then .error (.duplicateField key)
    else do
      let (argument, rest) ← tool.kind.read (← readColon text)
      .ok (some argument, rest)
  else do
    let rest ← skipValue (← readColon text)
    .ok (found, rest)

/-- Reads the arguments of a tool. -/
def readArguments (tool : Tool) (text : List Char) : Except JsonError (Request × List Char) :=
  match skipBlanks text with
  | [] => .error .endInValue
  | '\x7b' :: rest => do
    let (found, rest) ← foldMembers (readArgument tool) (rest.length + 1) true none rest
    .ok (← ofArgument tool found, rest)
  | text => .error (mismatch tool.expectedArguments text)

/-- How far the members of a request are read. -/
inductive Stage where
  /-- Neither of the two members was there. -/
  | start
  /-- The name was there. -/
  | named (tool : Tool)
  /-- The arguments were there. -/
  | given (arguments : Json)
  /-- Both were there. -/
  | whole (request : Request)

namespace Stage

/-- Whether the name was there. -/
def hasName : Stage → Bool
  | named _ | whole _ => true
  | _ => false

/-- Whether the arguments were there. -/
def hasArguments : Stage → Bool
  | given _ | whole _ => true
  | _ => false

/-- Reads the member of a request with a given key. -/
def readMember (stage : Stage) (key : String) (text : List Char) :
    Except JsonError (Stage × List Char) :=
  if key = "name" then
    if stage.hasName then .error (.duplicateField key)
    else do
      let (tool, rest) ← Tool.read (← readColon text)
      match stage with
      | given arguments => .ok (whole (← ofArguments tool arguments), rest)
      | _ => .ok (named tool, rest)
  else if key = "arguments" then
    if stage.hasArguments then .error (.duplicateField key)
    else do
      let text ← readColon text
      match stage with
      | named tool =>
        let (request, rest) ← readArguments tool text
        .ok (whole request, rest)
      | _ =>
        let (arguments, rest) ← Json.readValue (Json.maxDepth - 1) text
        .ok (given arguments, rest)
  else do
    let rest ← skipValue (← readColon text)
    .ok (stage, rest)

/-- The request once all members are read. -/
def finish : Stage → Except JsonError Request
  | whole request => .ok request
  | named _ => .error (.missingField "arguments")
  | _ => .error (.missingField "name")

end Stage

/-- How messages name a request. -/
def expected : String := "adjacently tagged enum ToolRequest"

/-- Reads a request that is a list, after its bracket. -/
def readList (text : List Char) : Except JsonError (Request × List Char) := do
  match ← nextItem true text with
  | none => .error (.invalidLength 0 expected)
  | some text =>
    let (tool, rest) ← Tool.read text
    match ← nextItem false rest with
    | none => .error (.invalidLength 1 expected)
    | some text =>
      let (request, rest) ← readArguments tool text
      .ok (request, ← endList rest)

/-- Reads a request. -/
def read (text : List Char) : Except JsonError (Request × List Char) :=
  match skipBlanks text with
  | [] => .error .endInValue
  | '[' :: rest => readList rest
  | '\x7b' :: rest => do
    let (stage, rest) ← foldMembers Stage.readMember (rest.length + 1) true .start rest
    .ok (← stage.finish, rest)
  | text => .error (mismatch expected text)

/-- The request that a text is. -/
def ofText (text : String) : Except JsonError Request := Json.atEnd (read text.toList)

end Request

end CodeSearch
