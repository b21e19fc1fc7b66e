import CodeSearch.Json.Reader

/-!
# Messages of the server

A `Call` is a line that a client sends, a JSON-RPC request; a `Reply` answers it, with a result or with
a `Fault`.
-/

namespace CodeSearch.Server

open Json (skipBlanks readColon readText readOptional foldMembers nextItem endList skipValue mismatch)

/-- What a client asks for. -/
structure Call where
  /-- The version of the protocol. -/
  version : String
  /-- What the reply is to be recognised by. -/
  id : Option Json
  /-- The name of the method. -/
  method : String
  /-- What is handed to the method. -/
  params : Option Json

/-- The members of a call as far as they are read; a member may be there without a value. -/
structure Call.Members where
  /-- The version of the protocol. -/
  version : Option String := none
  /-- What the reply is to be recognised by. -/
  id : Option (Option Json) := none
  /-- The name of the method. -/
  method : Option String := none
  /-- What is handed to the method. -/
  params : Option (Option Json) := none

namespace Call

/-- Reads a value that may be `null`, in the form in which values are kept. -/
def readValue (text : List Char) : Except JsonError (Option Json × List Char) := do
  let (value, rest) ← readOptional (Json.maxDepth - 1) text
  .ok (value.map Json.canonical, rest)

/-- Reads the member of a call with a given key; members of other names are passed over. -/
def readMember (members : Members) (key : String) (text : List Char) :
    Except JsonError (Members × List Char) :=
  if key = "jsonrpc" then
    if members.version.isSome then .error (.duplicateField key)
    else do
      let (version, rest) ← readText "a string" (← readColon text)
      .ok ({ members with version := some version }, rest)
  else if key = "id" then
    if members.id.isSome then .error (.duplicateField key)
    else do
      let (id, rest) ← readValue (← readColon text)
      .ok ({ members with id := some id }, rest)
  else if key = "method" then
    if members.method.isSome then .error (.duplicateField key)
    else do
      let (method, rest) ← readText "a string" (← readColon text)
      .ok ({ members with method := some method }, rest)
  else if key = "params" then
    if members.params.isSome then .error (.duplicateField key)
    else do
      let (params, rest) ← readValue (← readColon text)
      .ok ({ members with params := some params }, rest)
  else do
    let rest ← skipValue (← readColon text)
    .ok (members, rest)

/-- The call once all members are read. -/
def ofMembers (members : Members) : Except JsonError Call :=
  match members.version, members.method with
  | none, _ => .error (.missingField "jsonrpc")
  | some _, none => .error (.missingField "method")
  | some version, some method => .ok ⟨version, members.id.join, method, members.params.join⟩

/-- Finds the item of a call that is a list; `position` items stand before it. -/
def itemAt (position : Nat) (text : List Char) : Except JsonError (List Char) := do
  match ← nextItem (position = 0) text with
  | some text => .ok text
  | none => .error (.invalidLength position "struct JsonRpcRequest with 4 elements")

/-- Reads a call that is a list of its members, after the bracket. -/
def readList (text : List Char) : Except JsonError (Call × List Char) := do
  let (version, text) ← readText "a string" (← itemAt 0 text)
  let (id, text) ← readValue (← itemAt 1 text)
  let (method, text) ← readText "a string" (← itemAt 2 text)
  let (params, text) ← readValue (← itemAt 3 text)
  .ok (⟨version, id, method, params⟩, ← endList text)

/-- Reads a call. -/
def read (text : List Char) : Except JsonError (Call × List Char) :=
  match skipBlanks text with
  | [] => .error .endInValue
  | '[' :: rest => readList rest
  | '\x7b' :: rest => do
    let (members, rest) ← foldMembers readMember (rest.length + 1) true {} rest
    .ok (← ofMembers members, rest)
  | text => .error (mismatch "struct JsonRpcRequest" text)

/-- The call that a text is. -/
def ofText (text : String) : Except JsonError Call := Json.atEnd (read text.toList)

end Call

/-- Why a call is not carried out. -/
structure Fault where
  /-- The number of the fault. -/
  code : Int
  /-- Its wording. -/
  message : String
  deriving DecidableEq, Repr

/-- A fault as a JSON value. -/
def Fault.toJson (fault : Fault) : Json :=
  .object [("code", .number (.int fault.code)), ("message", .string fault.message)]

/-- What the server answers. -/
inductive Reply where
  /-- The line is no call. -/
  | unreadable (cause : JsonError)
  /-- The result of a call. -/
  | result (id value : Json)
  /-- A call that is not carried out. -/
  | fault (id : Json) (cause : Fault)

/-- A reply as a JSON value. -/
def Reply.toJson : Reply → Json
  | unreadable cause =>
    .object [
      ("error", Fault.toJson ⟨-32700, "Parse error: " ++ cause.message⟩),
      ("id", .null),
      ("jsonrpc", .string "2.0")]
  | result id value => .object [("jsonrpc", .string "2.0"), ("id", id), ("result", value)]
  | fault id cause => .object [("jsonrpc", .string "2.0"), ("id", id), ("error", cause.toJson)]

end CodeSearch.Server
