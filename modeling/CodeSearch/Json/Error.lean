import CodeSearch.Json.Basic
import CodeSearch.Unicode.Named

/-!
# What can be wrong with JSON

`JsonError` lists the faults of a JSON text and of a value that does not have the expected shape;
`JsonError.message` is their wording.  Strings are shown in messages between quotes, with everything
escaped that is not visible by itself.
-/

namespace CodeSearch

open Decimal (Binary64)

/-- What was found in place of an expected value. -/
inductive Json.Found where
  | null
  | bool (value : Bool)
  | number (value : Json.Number)
  | string (value : String)
  | sequence
  | map
  deriving DecidableEq, Repr

/-- A fault of a JSON text or value. -/
inductive JsonError where
  | endInValue
  | endInObject
  | endInList
  | endInString
  | expectedValue
  | expectedIdentifier
  | expectedColon
  | expectedListEnd
  | expectedObjectEnd
  | keyNotString
  | trailingComma
  | trailingCharacters
  | invalidEscape
  | invalidNumber
  | numberOutOfRange
  | endInHexEscape
  | loneSurrogate
  | controlCharacter
  | tooDeep
  | missingField (name : String)
  | duplicateField (name : String)
  | unknownVariant (name : String) (known : List String)
  | invalidType (found : Json.Found) (expected : String)
  | invalidValue (found : Json.Found) (expected : String)
  | invalidLength (length : Nat) (expected : String)
  deriving DecidableEq, Repr

namespace Json

/-- The kind of a value. -/
def found : Json → Found
  | null => .null
  | bool value => .bool value
  | number value => .number value
  | string value => .string value
  | array _ => .sequence
  | object _ => .map

/-- The text of a number. -/
def Number.text : Number → String
  | int value => toString value
  | float value => Decimal.Style.json.write value

/-- A character within a quoted text: itself if it is visible, else an escape. -/
def quotedChar (c : Char) : List Char :=
  match c with
  | '\x00' => ['\\', '0']
  | '\t' => ['\\', 't']
  | '\r' => ['\\', 'r']
  | '\n' => ['\\', 'n']
  | '"' => ['\\', '"']
  | '\\' => ['\\', '\\']
  | c =>
    if ' ' ≤ c ∧ c ≤ '~' then [c]
    else if Unicode.graphemeExtenders.contains c || Unicode.invisible.contains c then
      "\\u\x7b".toList ++ Nat.toDigits 16 c.toNat ++ ['\x7d']
    else [c]

/-- A text between quotes with escapes. -/
def quoted (text : String) : String :=
  "\"" ++ String.ofList (text.toList.flatMap quotedChar) ++ "\""

/-- How a message names what was found. -/
def Found.text : Found → String
  | null => "null"
  | bool value => "boolean `" ++ (if value then "true" else "false") ++ "`"
  | number (.int value) => "integer `" ++ toString value ++ "`"
  | number (.float value) => "floating point `" ++ Decimal.Style.json.write value ++ "`"
  | string value => "string " ++ quoted value
  | sequence => "sequence"
  | map => "map"

end Json

/-- The wording of a fault. -/
def JsonError.message : JsonError → String
  | endInValue => "EOF while parsing a value"
  | endInObject => "EOF while parsing an object"
  | endInList => "EOF while parsing a list"
  | endInString => "EOF while parsing a string"
  | expectedValue => "expected value"
  | expectedIdentifier => "expected ident"
  | expectedColon => "expected `:`"
  | expectedListEnd => "expected `,` or `]`"
  | expectedObjectEnd => "expected `,` or `\x7d`"
  | keyNotString => "key must be a string"
  | trailingComma => "trailing comma"
  | trailingCharacters => "trailing characters"
  | invalidEscape => "invalid escape"
  | invalidNumber => "invalid number"
  | numberOutOfRange => "number out of range"
  | endInHexEscape => "unexpected end of hex escape"
  | loneSurrogate => "lone leading surrogate in hex escape"
  | controlCharacter => "control character (\\u0000-\\u001F) found while parsing a string"
  | tooDeep => "recursion limit exceeded"
  | missingField name => "missing field `" ++ name ++ "`"
  | duplicateField name => "duplicate field `" ++ name ++ "`"
  | unknownVariant name known =>
    "unknown variant `" ++ name ++ "`, expected one of " ++
      ", ".intercalate (known.map fun name => "`" ++ name ++ "`")
  | invalidType found expected => "invalid type: " ++ found.text ++ ", expected " ++ expected
  | invalidValue found expected => "invalid value: " ++ found.text ++ ", expected " ++ expected
  | invalidLength length expected =>
    "invalid length " ++ toString length ++ ", expected " ++ expected

end CodeSearch
