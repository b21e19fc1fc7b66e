import CodeSearch.Json.Error

/-!
# Writing JSON

Two written forms of a value: `Json.compact` without any white space, and `Json.pretty` with one item
a line and two spaces a level.  Strings are escaped alike in both: quotes, backslashes and the control
characters below the space, everything else stands for itself.
-/

namespace CodeSearch.Json

/-- A character within a string. -/
def escapedChar (c : Char) : List Char :=
  match c with
  | '"' => ['\\', '"']
  | '\\' => ['\\', '\\']
  | '\x08' => ['\\', 'b']
  | '\t' => ['\\', 't']
  | '\n' => ['\\', 'n']
  | '\x0c' => ['\\', 'f']
  | '\r' => ['\\', 'r']
  | c =>
    if c < ' ' then
      ['\\', 'u', '0', '0', Nat.digitChar (c.toNat / 16), Nat.digitChar (c.toNat % 16)]
    else [c]

/-- The characters of a string value, with its quotes. -/
def stringChars (text : String) : List Char := '"' :: text.toList.flatMap escapedChar ++ ['"']

/-- The characters of a value without parts. -/
def scalarChars : Json → List Char
  | bool true => "true".toList
  | bool false => "false".toList
  | number value => value.text.toList
  | string text => stringChars text
  | _ => "null".toList

/-- The characters of a value on one line. -/
def compactChars : Json → List Char
  | array items => '[' :: values items ++ [']']
  | object members => '\x7b' :: fields members ++ ['\x7d']
  | value => value.scalarChars
where
  values : List Json → List Char
    | [] => []
    | [item] => item.compactChars
    | item :: rest => item.compactChars ++ ',' :: values rest
  fields : List (String × Json) → List Char
    | [] => []
    | [(key, value)] => stringChars key ++ ':' :: value.compactChars
    | (key, value) :: rest => stringChars key ++ ':' :: value.compactChars ++ ',' :: fields rest

/-- The start of a line at some level. -/
def newLine (level : Nat) : List Char := '\n' :: List.replicate (2 * level) ' '

/-- The characters of a value with one item a line, the first line being at the given level. -/
def prettyChars (level : Nat) : Json → List Char
  | array [] => ['[', ']']
  | array items => '[' :: values (level + 1) items ++ newLine level ++ [']']
  | object [] => ['\x7b', '\x7d']
  | object members => '\x7b' :: fields (level + 1) members ++ newLine level ++ ['\x7d']
  | value => value.scalarChars
where
  values (level : Nat) : List Json → List Char
    | [] => []
    | [item] => newLine level ++ item.prettyChars level
    | item :: rest => newLine level ++ item.prettyChars level ++ ',' :: values level rest
  fields (level : Nat) : List (String × Json) → List Char
    | [] => []
    | [(key, value)] => newLine level ++ stringChars key ++ ": ".toList ++ value.prettyChars level
    | (key, value) :: rest =>
      newLine level ++ stringChars key ++ ": ".toList ++ value.prettyChars level ++
        ',' :: fields level rest

/-- A value on one line. -/
def compact (value : Json) : String := String.ofList value.compactChars

/-- A value with one item a line. -/
def pretty (value : Json) : String := String.ofList (value.prettyChars 0)

end CodeSearch.Json
