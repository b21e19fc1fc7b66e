import CodeSearch.Json.Error

/-!
# Reading JSON

The readers take a text from its front and give back the rest.  `Json.readValue` reads a value;
`Json.skipValue` only passes over one, without looking at what its strings and numbers stand for.
`Json.foldMembers` goes through the members of an object and `Json.nextItem` through the items of a
list for readers that expect a value of a certain shape, so that the first fault in reading order is
the one that is reported.

Values may be nested `maxDepth` levels deep, not counting the outermost scalars; what is passed over may
be nested without limit.
-/

namespace CodeSearch.Json

open Decimal (Binary64)

/-- The levels of lists and objects at which reading gives up. -/
def maxDepth : Nat := 128

/-- Whether a character is blank between tokens. -/
def isBlank (c : Char) : Bool := c == ' ' || c == '\n' || c == '\t' || c == '\r'

/-- The rest of a text from its next token on. -/
def skipBlanks (text : List Char) : List Char := text.dropWhile isBlank

/-- Reads the rest of a word such as `null`. -/
def readWord (word : List Char) (text : List Char) : Except JsonError (List Char) :=
  match word, text with
  | [], rest => .ok rest
  | _, [] => .error .endInValue
  | w :: word, c :: rest => if c = w then readWord word rest else .error .expectedIdentifier

/-! ## Strings -/

/-- The value of a hexadecimal digit. -/
def hexValue? (c : Char) : Option Nat :=
  if '0' ≤ c ∧ c ≤ '9' then some (c.toNat - 48)
  else if 'a' ≤ c ∧ c ≤ 'f' then some (c.toNat - 87)
  else if 'A' ≤ c ∧ c ≤ 'F' then some (c.toNat - 55)
  else none

/-- The value of four hexadecimal digits. -/
def hexQuad? (a b c d : Char) : Option Nat := do
  some ((((← hexValue? a) * 16 + (← hexValue? b)) * 16 + (← hexValue? c)) * 16 + (← hexValue? d))

/-- What is wrong with a Unicode escape that does not have four digits: too few bytes are left, or
some of them are no digits. -/
def brokenHex (rest : List Char) : JsonError :=
  if (String.ofList rest).utf8ByteSize < 4 then .endInString else .invalidEscape

/-- The character of a short escape. -/
def shortEscape? : Char → Option Char
  | '"' => some '"'
  | '\\' => some '\\'
  | '/' => some '/'
  | 'b' => some '\x08'
  | 'f' => some '\x0c'
  | 'n' => some '\n'
  | 'r' => some '\r'
  | 't' => some '\t'
  | _ => none

/-- The fault of a leading surrogate that no escape of a trailing one follows. -/
def afterLeading : List Char → JsonError
  | [] => .endInString
  | '\\' :: [] => .endInString
  | '\\' :: 'u' :: rest => brokenHex rest
  | _ => .endInHexEscape

/-- Reads a string after its opening quote; `read` holds what was read before, in reverse. -/
def readString (read : List Char) : List Char → Except JsonError (String × List Char)
  | [] => .error .endInString
  | '"' :: rest => .ok (String.ofList read.reverse, rest)
  | '\\' :: 'u' :: a :: b :: c :: d :: rest =>
    match hexQuad? a b c d with
    | none => .error (brokenHex (a :: b :: c :: d :: rest))
    | some unit =>
      if 0xDC00 ≤ unit ∧ unit ≤ 0xDFFF then .error .loneSurrogate
      else if 0xD800 ≤ unit ∧ unit ≤ 0xDBFF then
        match rest with
        | '\\' :: 'u' :: e :: f :: g :: h :: rest =>
          match hexQuad? e f g h with
          | none => .error (brokenHex (e :: f :: g :: h :: rest))
          | some low =>
            if 0xDC00 ≤ low ∧ low ≤ 0xDFFF then
              readString
                (Char.ofNat (0x10000 + (unit - 0xD800) * 0x400 + (low - 0xDC00)) :: read) rest
            else .error .loneSurrogate
        | rest => .error (afterLeading rest)
      else readString (Char.ofNat unit :: read) rest
  | ['\\'] => .error .endInString
  | '\\' :: c :: rest =>
    if c = 'u' then .error (brokenHex rest)
    else match shortEscape? c with
      | some c => readString (c :: read) rest
      | none => .error .invalidEscape
  | c :: rest => if c < ' ' then .error .controlCharacter else readString (c :: read) rest

/-- Passes over a string after its opening quote; escapes need digits but no characters. -/
def skipString : List Char → Except JsonError (List Char)
  | [] => .error .endInString
  | '"' :: rest => .ok rest
  | '\\' :: 'u' :: a :: b :: c :: d :: rest =>
    if (hexQuad? a b c d).isSome then skipString rest
    else .error (brokenHex (a :: b :: c :: d :: rest))
  | ['\\'] => .error .endInString
  | '\\' :: c :: rest =>
    if c = 'u' then .error (brokenHex rest)
    else if (shortEscape? c).isSome then skipString rest
    else .error .invalidEscape
  | c :: rest => if c < ' ' then .error .controlCharacter else skipString rest

/-! ## Numbers -/

/-- The greatest integer that a number holds exactly. -/
def maxInteger : Nat := Nat.pow 2 64 - 1

/-- Takes digits into a significand as long as it stays below `2 ^ 64`; the other digits are left
over. -/
def takeDigits (significand : Nat) : List Char → Nat × List Char
  | [] => (significand, [])
  | c :: rest =>
    let next := significand * 10 + (c.toNat - 48)
    if maxInteger < next then (significand, c :: rest) else takeDigits next rest

/-- The double with a significand and a decimal exponent. -/
def floatOf (negative : Bool) (significand : Nat) (exponent : Int) : Except JsonError Number :=
  match Binary64.ofDecimal? negative significand exponent with
  | some value => .ok (.float value)
  | none => .error .numberOutOfRange

/-- Reads the digits of an exponent after its sign, which says whether it counts `down`. -/
def readShift (negative : Bool) (significand : Nat) (exponent : Int) (down : Bool)
    (text : List Char) : Except JsonError (Number × List Char) :=
  match text.span Char.isDigit with
  | ([], []) => .error .endInValue
  | ([], _) => .error .invalidNumber
  | (digits, rest) =>
    let shift : Nat := digits.foldl (fun n c => n * 10 + (c.toNat - 48)) 0
    if Nat.pow 2 31 ≤ shift then
      if significand ≠ 0 ∧ ¬ down then .error .numberOutOfRange
      else .ok (.float ⟨negative, 0, -1074⟩, rest)
    else do
      let value ← floatOf negative significand (if down then exponent - shift else exponent + shift)
      .ok (value, rest)

/-- Reads the exponent of a number after its `e`. -/
def readExponent (negative : Bool) (significand : Nat) (exponent : Int) (text : List Char) :
    Except JsonError (Number × List Char) :=
  match text with
  | '+' :: rest => readShift negative significand exponent false rest
  | '-' :: rest => readShift negative significand exponent true rest
  | rest => readShift negative significand exponent false rest

/-- Reads the digits of a number after its point. -/
def readFraction (negative : Bool) (significand : Nat) (exponent : Int) (text : List Char) :
    Except JsonError (Number × List Char) :=
  match text.span Char.isDigit with
  | ([], []) => .error .endInValue
  | ([], _) => .error .invalidNumber
  | (digits, rest) =>
    let (significand, left) := takeDigits significand digits
    let exponent := exponent - (digits.length - left.length : Nat)
    match rest with
    | 'e' :: rest | 'E' :: rest => readExponent negative significand exponent rest
    | rest => do .ok (← floatOf negative significand exponent, rest)

/-- The number of an integer without fraction and exponent.  A negative zero and a negative integer
below `-2 ^ 63` are doubles. -/
def integerOf (negative : Bool) (significand : Nat) : Except JsonError Number :=
  if ¬ negative then .ok (.int significand)
  else if significand = 0 ∨ Nat.pow 2 63 < significand then floatOf true significand 0
  else .ok (.int (-significand))

/-- Reads a number after its sign. -/
def readUnsigned (negative : Bool) (text : List Char) : Except JsonError (Number × List Char) :=
  match text.span Char.isDigit with
  | ([], []) => .error .endInValue
  | ([], _) => .error .invalidNumber
  | ('0' :: _ :: _, _) => .error .invalidNumber
  | (digits, rest) =>
    let (significand, left) := takeDigits 0 digits
    match rest with
    | '.' :: rest => readFraction negative significand left.length rest
    | 'e' :: rest | 'E' :: rest => readExponent negative significand left.length rest
    | rest => do
      let value ← if left.isEmpty then integerOf negative significand
        else floatOf negative significand left.length
      .ok (value, rest)

/-- Reads a number. -/
def readNumber : List Char → Except JsonError (Number × List Char)
  | '-' :: rest => readUnsigned true rest
  | text => readUnsigned false text

/-- Passes over the digits of an exponent after its sign. -/
def skipShift (text : List Char) : Except JsonError (List Char) :=
  match text.span Char.isDigit with
  | ([], _) => .error .invalidNumber
  | (_, rest) => .ok rest

/-- Passes over the exponent of a number after its `e`. -/
def skipExponent : List Char → Except JsonError (List Char)
  | '+' :: rest | '-' :: rest => skipShift rest
  | text => skipShift text

/-- Passes over the digits of a number after its point. -/
def skipFraction (text : List Char) : Except JsonError (List Char) :=
  match text.span Char.isDigit with
  | ([], _) => .error .invalidNumber
  | (_, 'e' :: rest) | (_, 'E' :: rest) => skipExponent rest
  | (_, rest) => .ok rest

/-- Passes over a number after its sign. -/
def skipUnsigned (text : List Char) : Except JsonError (List Char) :=
  match text.span Char.isDigit with
  | ([], _) | ('0' :: _ :: _, _) => .error .invalidNumber
  | (_, '.' :: rest) => skipFraction rest
  | (_, 'e' :: rest) | (_, 'E' :: rest) => skipExponent rest
  | (_, rest) => .ok rest

/-- Passes over a number of any size. -/
def skipNumber : List Char → Except JsonError (List Char)
  | '-' :: rest => skipUnsigned rest
  | text => skipUnsigned text

/-! ## Lists and objects -/

/-- Finds the next item of a list; `none` when the list ends, in front of its bracket. -/
def nextItem (first : Bool) (text : List Char) : Except JsonError (Option (List Char)) :=
  match skipBlanks text with
  | [] => .error .endInList
  | ']' :: _ => .ok none
  | c :: rest =>
    if first then .ok (some (c :: rest))
    else if c = ',' then
      match skipBlanks rest with
      | [] => .error .endInValue
      | ']' :: _ => .error .trailingComma
      | rest => .ok (some rest)
    else .error .expectedListEnd

/-- Reads the end of a list from which no item is expected any more. -/
def endList (text : List Char) : Except JsonError (List Char) :=
  match skipBlanks text with
  | [] => .error .endInList
  | ']' :: rest => .ok rest
  | ',' :: rest =>
    match skipBlanks rest with
    | ']' :: _ => .error .trailingComma
    | _ => .error .trailingCharacters
  | _ => .error .trailingCharacters

/-- Reads the colon after a key. -/
def readColon (text : List Char) : Except JsonError (List Char) :=
  match skipBlanks text with
  | [] => .error .endInObject
  | ':' :: rest => .ok rest
  | _ => .error .expectedColon

/-- Finds the next key of an object, after its opening quote; `none` when the object ends, with the
rest after its brace. -/
def nextKey (first : Bool) (text : List Char) :
    Except JsonError (Option (List Char) × List Char) :=
  match skipBlanks text with
  | [] => .error .endInObject
  | '\x7d' :: rest => .ok (none, rest)
  | c :: rest =>
    if first then
      if c = '"' then .ok (some rest, []) else .error .keyNotString
    else if c = ',' then
      match skipBlanks rest with
      | [] => .error .endInValue
      | '"' :: rest => .ok (some rest, [])
      | '\x7d' :: _ => .error .trailingComma
      | _ => .error .keyNotString
    else .error .expectedObjectEnd

/-- Goes through the members of an object after its brace.  `member` reads on after a key, from its
colon, and updates a state; a key that is not admitted is thus refused before its colon is looked for.
`steps` bounds the number of members. -/
def foldMembers {σ : Type} (member : σ → String → List Char → Except JsonError (σ × List Char)) :
    (steps : Nat) → (first : Bool) → σ → List Char → Except JsonError (σ × List Char)
  | 0, _, _, _ => .error .endInObject
  | steps + 1, first, state, text => do
    match ← nextKey first text with
    | (none, rest) => .ok (state, rest)
    | (some text, _) =>
      let (key, rest) ← readString [] text
      let (state, rest) ← member state key rest
      foldMembers member steps false state rest

/-- Reads the items of a list after its bracket; `items` holds those before, in reverse. -/
def readItems (item : List Char → Except JsonError (Json × List Char)) :
    (steps : Nat) → (items : List Json) → List Char → Except JsonError (Json × List Char)
  | 0, _, _ => .error .endInList
  | steps + 1, items, text => do
    match ← nextItem items.isEmpty text with
    | none => .ok (.array items.reverse, ← endList text)
    | some text =>
      let (value, rest) ← item text
      readItems item steps (value :: items) rest

/-- Reads a value that may have up to `depth` levels, itself included. -/
def readValue (depth : Nat) (text : List Char) : Except JsonError (Json × List Char) :=
  match skipBlanks text with
  | [] => .error .endInValue
  | c :: rest =>
    if c = 'n' then do .ok (.null, ← readWord "ull".toList rest)
    else if c = 't' then do .ok (.bool true, ← readWord "rue".toList rest)
    else if c = 'f' then do .ok (.bool false, ← readWord "alse".toList rest)
    else if c = '-' ∨ c.isDigit then do
      let (value, rest) ← readNumber (c :: rest)
      .ok (.number value, rest)
    else if c = '"' then do
      let (value, rest) ← readString [] rest
      .ok (.string value, rest)
    else if c = '[' then
      match depth with
      | 0 | 1 => .error .tooDeep
      | depth + 2 => readItems (readValue (depth + 1)) (rest.length + 1) [] rest
    else if c = '\x7b' then
      match depth with
      | 0 | 1 => .error .tooDeep
      | depth + 2 => do
        let member (members : List (String × Json)) (key : String) (text : List Char) := do
          let (value, rest) ← readValue (depth + 1) (← readColon text)
          Except.ok ((key, value) :: members, rest)
        let (members, rest) ← foldMembers member (rest.length + 1) true [] rest
        .ok (.object members.reverse, rest)
    else .error .expectedValue

/-! ## Passing over values -/

/-- Where passing over a value stands: before a value, or behind a value or an opening bracket. -/
inductive SkipState where
  | beforeValue
  | behind (anItem : Bool)

/-- Passes over a value; `opened` lists the brackets that are open, the innermost first. -/
def skipWith : (steps : Nat) → SkipState → (opened : List Char) → List Char →
    Except JsonError (List Char)
  | 0, _, _, _ => .error .endInValue
  | steps + 1, .beforeValue, opened, text =>
    match skipBlanks text with
    | [] => .error .endInValue
    | c :: rest =>
      if c = 'n' then do skipWith steps (.behind true) opened (← readWord "ull".toList rest)
      else if c = 't' then do skipWith steps (.behind true) opened (← readWord "rue".toList rest)
      else if c = 'f' then do skipWith steps (.behind true) opened (← readWord "alse".toList rest)
      else if c = '-' ∨ c.isDigit then do
        skipWith steps (.behind true) opened (← skipNumber (c :: rest))
      else if c = '"' then do skipWith steps (.behind true) opened (← skipString rest)
      else if c = '[' ∨ c = '\x7b' then skipWith steps (.behind false) (c :: opened) rest
      else .error .expectedValue
  | _, .behind _, [], text => .ok text
  | steps + 1, .behind anItem, bracket :: opened, text =>
    let next (text : List Char) : Except JsonError (List Char) :=
      if bracket = '\x7b' then
        match skipBlanks text with
        | [] => .error .endInObject
        | '"' :: rest => do
          let rest ← skipString rest
          let rest ← readColon rest
          skipWith steps .beforeValue (bracket :: opened) rest
        | _ => .error .keyNotString
      else skipWith steps .beforeValue (bracket :: opened) text
    match skipBlanks text with
    | [] => .error (if bracket = '[' then .endInList else .endInObject)
    | c :: rest =>
      if anItem ∧ c = ',' then next rest
      else if (c = ']' ∧ bracket = '[') ∨ (c = '\x7d' ∧ bracket = '\x7b') then
        skipWith steps (.behind true) opened rest
      else if anItem then
        .error (if bracket = '[' then .expectedListEnd else .expectedObjectEnd)
      else next (c :: rest)

/-- Passes over a value. -/
def skipValue (text : List Char) : Except JsonError (List Char) :=
  skipWith (2 * text.length + 2) .beforeValue [] text

/-! ## Values of a certain kind -/

/-- The fault of finding another kind of value than the expected one.  The value is looked at only as
far as its kind needs. -/
def mismatch (expected : String) (text : List Char) : JsonError :=
  let found (reading : Except JsonError Found) : JsonError :=
    match reading with
    | .ok found => .invalidType found expected
    | .error e => e
  match skipBlanks text with
  | [] => .expectedValue
  | c :: rest =>
    if c = 'n' then found ((readWord "ull".toList rest).map fun _ => .null)
    else if c = 't' then found ((readWord "rue".toList rest).map fun _ => .bool true)
    else if c = 'f' then found ((readWord "alse".toList rest).map fun _ => .bool false)
    else if c = '-' ∨ c.isDigit then found ((readNumber (c :: rest)).map fun r => .number r.1)
    else if c = '"' then found ((readString [] rest).map fun r => .string r.1)
    else if c = '[' then .invalidType .sequence expected
    else if c = '\x7b' then .invalidType .map expected
    else .expectedValue

/-- Reads a string value. -/
def readText (expected : String) (text : List Char) : Except JsonError (String × List Char) :=
  match skipBlanks text with
  | [] => .error .endInValue
  | '"' :: rest => readString [] rest
  | text => .error (mismatch expected text)

/-- The natural number below `2 ^ 64` that a number is. -/
def Number.asWord (value : Number) : Except JsonError UInt64 :=
  match value with
  | .int (.ofNat n) => .ok (UInt64.ofNat n)
  | .int n => .error (.invalidValue (.number (.int n)) "u64")
  | .float x => .error (.invalidType (.number (.float x)) "u64")

/-- Reads a natural number below `2 ^ 64`. -/
def readWordNumber (text : List Char) : Except JsonError (UInt64 × List Char) :=
  match skipBlanks text with
  | [] => .error .endInValue
  | c :: rest =>
    if c = '-' ∨ c.isDigit then do
      let (value, rest) ← readNumber (c :: rest)
      .ok (← value.asWord, rest)
    else .error (mismatch "u64" (c :: rest))

/-- Reads a value unless it is `null`. -/
def readOptional (depth : Nat) (text : List Char) : Except JsonError (Option Json × List Char) :=
  match skipBlanks text with
  | 'n' :: rest => do .ok (none, ← readWord "ull".toList rest)
  | text => do
    let (value, rest) ← readValue depth text
    .ok (some value, rest)

/-- Nothing but blanks may follow a whole text. -/
def atEnd {α : Type} (reading : Except JsonError (α × List Char)) : Except JsonError α := do
  let (value, rest) ← reading
  if (skipBlanks rest).isEmpty then .ok value else .error .trailingCharacters

/-- Reads a text that is a single value. -/
def parse (text : String) : Except JsonError Json := atEnd (readValue maxDepth text.toList)

end CodeSearch.Json
