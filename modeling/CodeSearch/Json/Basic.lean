import CodeSearch.Decimal.Shortest

/-!
# JSON values

`Json` is a JSON value with the members of its objects in the order in which they were written.
`Json.canonical` sorts the members of every object by key and keeps the last of several members with
one key, which is the form in which values are stored and sent on.
-/

namespace CodeSearch

open Decimal (Binary64)

/-- A JSON number: an integer of 64 bits, signed or not, or a double. -/
inductive Json.Number where
  | int (value : Int)
  | float (value : Binary64)
  deriving DecidableEq, Repr

/-- A JSON value. -/
inductive Json where
  | null
  | bool (value : Bool)
  | number (value : Json.Number)
  | string (value : String)
  | array (items : List Json)
  | object (members : List (String × Json))

namespace Json

/-- The number `n`. -/
def nat (n : Nat) : Json := .number (.int n)

/-- Puts a member into members that are sorted by key, in place of one with the same key. -/
def insertMember (key : String) (value : Json) : List (String × Json) → List (String × Json)
  | [] => [(key, value)]
  | (k, v) :: rest =>
    if key < k then (key, value) :: (k, v) :: rest
    else if key = k then (key, value) :: rest
    else (k, v) :: insertMember key value rest

/-- The value with the members of each object sorted by key, the last of equal keys alone. -/
def canonical : Json → Json
  | array items => .array (values items)
  | object members => .object ((sorted members).foldl (fun done m => insertMember m.1 m.2 done) [])
  | value => value
where
  values : List Json → List Json
    | [] => []
    | item :: rest => item.canonical :: values rest
  sorted : List (String × Json) → List (String × Json)
    | [] => []
    | (key, value) :: rest => (key, value.canonical) :: sorted rest

/-- The member of an object with a given key. -/
def get? (key : String) : Json → Option Json
  | object members => (members.find? (·.1 == key)).map (·.2)
  | _ => none

/-- The text of a string value. -/
def asString? : Json → Option String
  | string text => some text
  | _ => none

/-- An object without the members that have a given key; other values as they are. -/
def erase (key : String) : Json → Json
  | object members => .object (members.filter (·.1 != key))
  | value => value

end Json

end CodeSearch
