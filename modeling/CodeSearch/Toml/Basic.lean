/-!
# TOML documents

`Toml` is a TOML value; `Toml.Statement` is a line of a document that says something: a table header,
the header of a table in an array, or a value for a key.  A document is a list of statements, and
`Toml.ofStatements?` is the table that they describe together.

Tables are built under the rules that keep every table in one place of the document: a header may fill
in a table that so far only occurs in the headers of its parts, dotted keys may only extend tables that
dotted keys made, and nothing is given twice.
-/

namespace CodeSearch

/-- A TOML value.  Times are kept as texts; of floats nothing but their kind is kept. -/
inductive Toml where
  | string (value : String)
  | integer (value : Int)
  | float
  | boolean (value : Bool)
  | time (text : String)
  | array (items : List Toml)
  | table (members : List (String × Toml))

namespace Toml

/-- A key of one or more parts. -/
abbrev Key := List String

/-- What a line of a document says. -/
inductive Statement where
  /-- The table at a key follows. -/
  | header (key : Key)
  /-- Another table of the array at a key follows. -/
  | arrayHeader (key : Key)
  /-- A key of the current table has a value. -/
  | assign (key : Key) (value : Toml)

/-- How a table came to be. -/
inductive Origin where
  /-- By a header of its own, or as the top of the document. -/
  | defined
  /-- By the header of a part of it. -/
  | implied
  /-- By dotted keys. -/
  | dotted
  deriving DecidableEq, Repr

/-- What stands at a key while a document is put together. -/
inductive Item where
  | leaf (value : Toml)
  | table (origin : Origin) (members : List (String × Item))
  | tables (elements : List (List (String × Item)))

/-- The members of a table. -/
abbrev Members := List (String × Item)

/-- The item at a key. -/
def item? (members : Members) (key : String) : Option Item :=
  (members.find? (·.1 == key)).map (·.2)

/-- Puts an item at a key, in place of the one there. -/
def setItem (key : String) (item : Item) : Members → Members
  | [] => [(key, item)]
  | (k, old) :: rest => if k = key then (k, item) :: rest else (k, old) :: setItem key item rest

/-- Changes the table at a key that headers name; tables that are missing on the way are implied, and
of an array of tables the last one is meant. -/
def atHeader (change : Members → Option Members) : Key → Members → Option Members
  | [], members => change members
  | part :: rest, members =>
    match item? members part with
    | none => do
      let inner ← atHeader change rest []
      some (setItem part (.table .implied inner) members)
    | some (.leaf _) => none
    | some (.table origin inner) => do
      let inner ← atHeader change rest inner
      some (setItem part (.table origin inner) members)
    | some (.tables elements) => do
      let inner ← atHeader change rest (elements.getLast?.getD [])
      some (setItem part (.tables (elements.dropLast ++ [inner])) members)

/-- Puts a value at a dotted key.  All parts but the last name tables that dotted keys made; a table
that is only implied, or the last one of an array, may be passed through on the way to such a table. -/
def assign (value : Toml) : Key → Members → Option Members
  | [], _ => none
  | [part], members =>
    match item? members part with
    | none => some (setItem part (.leaf value) members)
    | some _ => none
  | part :: rest, members =>
    match item? members part with
    | none => do
      let inner ← assign value rest []
      some (setItem part (.table .dotted inner) members)
    | some (.table .dotted inner) => do
      let inner ← assign value rest inner
      some (setItem part (.table .dotted inner) members)
    | some (.table .implied inner) =>
      if rest.length ≤ 1 then none
      else do
        let inner ← assign value rest inner
        some (setItem part (.table .implied inner) members)
    | some (.tables elements) =>
      if rest.length ≤ 1 then none
      else do
        let inner ← assign value rest (elements.getLast?.getD [])
        some (setItem part (.tables (elements.dropLast ++ [inner])) members)
    | some _ => none

/-- Begins the table that a header names. -/
def define : Key → Members → Option Members
  | key, members =>
    match key.getLast? with
    | none => none
    | some last =>
      atHeader (fun members =>
        match item? members last with
        | none => some (setItem last (.table .defined []) members)
        | some (.table .implied inner) => some (setItem last (.table .defined inner) members)
        | some _ => none) key.dropLast members

/-- Begins another table of the array that a header names. -/
def append : Key → Members → Option Members
  | key, members =>
    match key.getLast? with
    | none => none
    | some last =>
      atHeader (fun members =>
        match item? members last with
        | none => some (setItem last (.tables [[]]) members)
        | some (.tables elements) => some (setItem last (.tables (elements ++ [[]])) members)
        | some _ => none) key.dropLast members

/-- Puts the statements of a document together, `current` being the key of the current table. -/
def build (current : Key) (members : Members) : List Statement → Option Members
  | [] => some members
  | .header key :: rest => do build key (← define key members) rest
  | .arrayHeader key :: rest => do build key (← append key members) rest
  | .assign key value :: rest => do build current (← atHeader (assign value key) current members) rest

/-- The value that an item has come to be. -/
def Item.toValue : Item → Toml
  | .leaf value => value
  | .table _ members => .table (values members)
  | .tables elements => .array (tables elements)
where
  values : List (String × Item) → List (String × Toml)
    | [] => []
    | (key, item) :: rest => (key, item.toValue) :: values rest
  tables : List (List (String × Item)) → List Toml
    | [] => []
    | members :: rest => .table (values members) :: tables rest

/-- The members of the table that the statements of a document describe. -/
def ofStatements? (statements : List Statement) : Option (List (String × Toml)) :=
  (build [] [] statements).map Item.toValue.values

/-- The table of the assignments of an inline table. -/
def inlineTable? (assignments : List (Key × Toml)) : Option Toml :=
  (assignments.foldlM (fun members (key, value) => assign value key members) []).map fun members =>
    .table (Item.toValue.values members)

end Toml

end CodeSearch
