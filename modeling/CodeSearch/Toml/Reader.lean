import CodeSearch.Decimal.Binary64
import CodeSearch.Toml.Basic

/-!
# Reading TOML

`Toml.parse?` reads a document.  The readers take a text from its front and give back the rest; a text
that breaks a rule has no reading.  Values may be nested less than `maxDepth` levels deep, and a key may
have less than `maxDepth` parts.
-/

namespace CodeSearch.Toml

/-- The levels of nesting and the parts of a key at which reading gives up. -/
def maxDepth : Nat := 80

/-- Whether a character is blank within a line. -/
def isBlank (c : Char) : Bool := c == ' ' || c == '\t'

/-- Whether a character may stand in comments and strings: no control character but the tab. -/
def isPlain (c : Char) : Bool := c == '\t' || (' ' ≤ c && c != '\x7f')

/-- The rest of a line from its next character that is not blank. -/
def skipBlanks (text : List Char) : List Char := text.dropWhile isBlank

/-- Reads the end of a line. -/
def newline? : List Char → Option (List Char)
  | '\n' :: rest => some rest
  | '\r' :: '\n' :: rest => some rest
  | _ => none

/-- Passes over a comment, if there is one. -/
def skipComment : List Char → List Char
  | '#' :: rest => rest.dropWhile isPlain
  | text => text

/-- Reads what may follow a statement: blanks, a comment and the end of the line or of the text. -/
def lineEnd? (text : List Char) : Option (List Char) :=
  match skipComment (skipBlanks text) with
  | [] => some []
  | rest => newline? rest

/-- Passes over blanks, comments and ends of lines; `steps` bounds the lines. -/
def skipLines? : (steps : Nat) → List Char → Option (List Char)
  | 0, _ => none
  | steps + 1, text =>
    match skipBlanks text with
    | '#' :: rest => do skipLines? steps (← newline? (rest.dropWhile isPlain))
    | '\n' :: rest => skipLines? steps rest
    | '\r' :: '\n' :: rest => skipLines? steps rest
    | rest => some rest

/-! ## Strings -/

/-- The value of a hexadecimal digit. -/
def hexDigit? (c : Char) : Option Nat :=
  if '0' ≤ c ∧ c ≤ '9' then some (c.toNat - 48)
  else if 'a' ≤ c ∧ c ≤ 'f' then some (c.toNat - 87)
  else if 'A' ≤ c ∧ c ≤ 'F' then some (c.toNat - 55)
  else none

/-- The character with a code of `count` hexadecimal digits. -/
def codePoint? (count : Nat) (text : List Char) : Option (Char × List Char) := do
  let digits ← (text.take count).mapM hexDigit?
  if digits.length < count then none
  let code := digits.foldl (fun n d => n * 16 + d) 0
  if h : code.isValidChar then some (Char.ofNatAux code h, text.drop count) else none

/-- Reads an escape after its backslash. -/
def escape? : List Char → Option (Char × List Char)
  | 'b' :: rest => some ('\x08', rest)
  | 't' :: rest => some ('\t', rest)
  | 'n' :: rest => some ('\n', rest)
  | 'f' :: rest => some ('\x0c', rest)
  | 'r' :: rest => some ('\r', rest)
  | '"' :: rest => some ('"', rest)
  | '\\' :: rest => some ('\\', rest)
  | 'u' :: rest => codePoint? 4 rest
  | 'U' :: rest => codePoint? 8 rest
  | _ => none

/-- Reads a basic string after its quote. -/
def basicString? : (steps : Nat) → (read : List Char) → List Char → Option (String × List Char)
  | 0, _, _ | _, _, [] => none
  | steps + 1, read, c :: rest =>
    if c = '"' then some (String.ofList read.reverse, rest)
    else if c = '\\' then do
      let (c, rest) ← escape? rest
      basicString? steps (c :: read) rest
    else if isPlain c then basicString? steps (c :: read) rest
    else none

/-- Reads a literal string after its quote. -/
def literalString? (text : List Char) : Option (String × List Char) :=
  match text.span fun c => isPlain c && c != '\'' with
  | (read, '\'' :: rest) => some (String.ofList read, rest)
  | _ => none

/-- The end of a line within a string, if there is one. -/
def dropNewline (text : List Char) : List Char := (newline? text).getD text

/-- Passes over blanks and ends of lines. -/
def skipSpace : List Char → List Char
  | '\r' :: '\n' :: rest => skipSpace rest
  | c :: rest => if isBlank c || c == '\n' then skipSpace rest else c :: rest
  | [] => []

/-- Reads a string of several lines after its quotes; `quote` is the kind of quote.  Up to two quotes
may stand before the closing ones. -/
def multilineString? (quote : Char) : (steps : Nat) → (read : List Char) → List Char →
    Option (String × List Char)
  | 0, _, _ | _, _, [] => none
  | steps + 1, read, c :: rest =>
    if c = quote then
      let quotes := ((c :: rest).takeWhile (· == quote)).length
      if quotes < 3 then multilineString? quote steps (c :: read) rest
      else
        let extra := min (quotes - 3) 2
        some (String.ofList (read.reverse ++ List.replicate extra quote),
          (c :: rest).drop (extra + 3))
    else if c = '\\' ∧ quote = '"' then
      match newline? (skipBlanks rest) with
      | some rest => multilineString? quote steps read (skipSpace rest)
      | none => do
        let (c, rest) ← escape? rest
        multilineString? quote steps (c :: read) rest
    else match newline? (c :: rest) with
      | some rest => multilineString? quote steps ('\n' :: read) rest
      | none => if isPlain c then multilineString? quote steps (c :: read) rest else none

/-- Reads a string of any kind. -/
def string? (text : List Char) : Option (String × List Char) :=
  match text with
  | '"' :: '"' :: '"' :: rest => multilineString? '"' (rest.length + 1) [] (dropNewline rest)
  | '\'' :: '\'' :: '\'' :: rest => multilineString? '\'' (rest.length + 1) [] (dropNewline rest)
  | '"' :: rest => basicString? (rest.length + 1) [] rest
  | '\'' :: rest => literalString? rest
  | _ => none

/-! ## Keys -/

/-- Whether a character may stand in a key without quotes. -/
def isBare (c : Char) : Bool := c.isAlphanum || c == '_' || c == '-'

/-- Reads a part of a key. -/
def keyPart? (text : List Char) : Option (String × List Char) :=
  match text with
  | '"' :: rest => basicString? (rest.length + 1) [] rest
  | '\'' :: rest => literalString? rest
  | text =>
    match text.span isBare with
    | ([], _) => none
    | (part, rest) => some (String.ofList part, rest)

/-- Reads a key with blanks around its parts. -/
def key? : (parts : Nat) → List Char → Option (Key × List Char)
  | 0, _ => none
  | parts + 1, text => do
    let (part, rest) ← keyPart? (skipBlanks text)
    match skipBlanks rest with
    | '.' :: rest =>
      let (more, rest) ← key? parts rest
      some (part :: more, rest)
    | rest => some ([part], rest)

/-! ## Numbers and times -/

/-- Reads digits with single underscores between them. -/
def digits? (isDigit : Char → Bool) : List Char → Option (List Char × List Char)
  | [] => none
  | c :: rest => if isDigit c then some (more c rest) else none
where
  /-- Reads on after a digit. -/
  more (digit : Char) : List Char → List Char × List Char
    | '_' :: c :: rest =>
      if isDigit c then
        let (digits, rest) := more c rest
        (digit :: digits, rest)
      else ([digit], '_' :: c :: rest)
    | c :: rest =>
      if isDigit c then
        let (digits, rest) := more c rest
        (digit :: digits, rest)
      else ([digit], c :: rest)
    | [] => ([digit], [])

/-- The number that digits of some base stand for. -/
def numberOf (base : Nat) (digits : List Char) : Nat :=
  digits.foldl (fun n c => n * base + (hexDigit? c).getD 0) 0

/-- The integer with a sign and a magnitude, within 64 bits. -/
def integer? (negative : Bool) (magnitude : Nat) : Option Toml :=
  if negative then if magnitude ≤ Nat.pow 2 63 then some (.integer (-magnitude)) else none
  else if magnitude < Nat.pow 2 63 then some (.integer magnitude) else none

/-- Reads an integer with a base prefix, after the prefix. -/
def prefixedInteger? (base : Nat) (text : List Char) : Option (Toml × List Char) := do
  let isDigit (c : Char) : Bool := (hexDigit? c).any (· < base)
  let (digits, rest) ← digits? isDigit text
  some (← integer? false (numberOf base digits), rest)

/-- Whether a positive decimal is beyond the greatest double. -/
def overflows (digits : List Char) (fractionDigits : Nat) (exponent : Int) : Bool :=
  let significand := numberOf 10 digits
  let exponent := exponent - fractionDigits
  let size := (Nat.toDigits 10 significand).length + exponent
  if significand = 0 ∨ size < 300 then false
  else if 320 < size then true
  else
    let (n, d) :=
      if 0 ≤ exponent then (significand * Nat.pow 10 exponent.toNat, 1)
      else (significand, Nat.pow 10 (-exponent).toNat)
    (Decimal.Binary64.nearest? false n d).isNone

/-- Reads the exponent of a float, if there is one. -/
def exponent? (text : List Char) : Option (Option Int × List Char) :=
  match text with
  | 'e' :: rest | 'E' :: rest => do
    let (negative, rest) := match rest with
      | '+' :: rest => (false, rest)
      | '-' :: rest => (true, rest)
      | rest => (false, rest)
    let (digits, rest) ← digits? Char.isDigit rest
    let magnitude : Int := numberOf 10 digits
    some (some (if negative then -magnitude else magnitude), rest)
  | text => some (none, text)

/-- Reads a decimal integer or a float after its sign. -/
def decimal? (negative : Bool) (text : List Char) : Option (Toml × List Char) := do
  let (whole, rest) ← match text with
    | '0' :: rest => some (['0'], rest)
    | text => digits? Char.isDigit text
  let (fraction, rest') ← match rest with
    | '.' :: rest => do
      let (digits, rest) ← digits? Char.isDigit rest
      some (some digits, rest)
    | rest => some (none, rest)
  let (exponent, rest') ← exponent? rest'
  if fraction.isNone ∧ exponent.isNone then
    some (← integer? negative (numberOf 10 whole), rest')
  else
    let digits := whole ++ fraction.getD []
    if ¬ negative ∧ overflows digits (fraction.getD []).length (exponent.getD 0) then none
    else some (.float, rest')

/-- Reads a given word. -/
def word? (word text : List Char) : Option (List Char) :=
  if word.isPrefixOf text then some (text.drop word.length) else none

/-- Reads a float without digits. -/
def specialFloat? (text : List Char) : Option (Toml × List Char) :=
  ((word? "inf".toList text) <|> (word? "nan".toList text)).map fun rest => (.float, rest)

/-- Reads a number of a fixed count of digits within bounds. -/
def fixed? (count low high : Nat) (text : List Char) : Option (Nat × List Char) :=
  let digits := text.take count
  let value := numberOf 10 digits
  if digits.length = count ∧ digits.all Char.isDigit ∧ low ≤ value ∧ value ≤ high then
    some (value, text.drop count)
  else none

/-- The days of a month. -/
def daysIn (year month : Nat) : Nat :=
  if month = 2 then if year % 4 = 0 ∧ (year % 100 ≠ 0 ∨ year % 400 = 0) then 29 else 28
  else if month ∈ [4, 6, 9, 11] then 30
  else 31

/-- Reads a date. -/
def date? (text : List Char) : Option (List Char) := do
  let (year, rest) ← fixed? 4 0 9999 text
  let rest ← word? ['-'] rest
  let (month, rest) ← fixed? 2 1 12 rest
  let rest ← word? ['-'] rest
  let (_, rest) ← fixed? 2 1 (daysIn year month) rest
  some rest

/-- Reads a time of day. -/
def clock? (text : List Char) : Option (List Char) := do
  let (_, rest) ← fixed? 2 0 23 text
  let rest ← word? [':'] rest
  let (_, rest) ← fixed? 2 0 59 rest
  let rest ← word? [':'] rest
  let (_, rest) ← fixed? 2 0 60 rest
  match rest with
  | '.' :: c :: more => some (if c.isDigit then more.dropWhile Char.isDigit else rest)
  | rest => some rest

/-- Reads the distance of a time from the zero meridian. -/
def offset? (text : List Char) : Option (List Char) :=
  match text with
  | 'Z' :: rest | 'z' :: rest => some rest
  | '+' :: rest | '-' :: rest => do
    let (_, rest) ← fixed? 2 0 23 rest
    let rest ← word? [':'] rest
    let (_, rest) ← fixed? 2 0 59 rest
    some rest
  | _ => none

/-- Reads a date, a time or both. -/
def time? (text : List Char) : Option (Toml × List Char) := do
  let rest ← match date? text with
    | some rest =>
      match rest with
      | c :: more =>
        if c = 'T' ∨ c = 't' ∨ c = ' ' then
          match clock? more with
          | some rest => some ((offset? rest).getD rest)
          | none => some rest
        else some rest
      | [] => some rest
    | none => clock? text
  some (.time (String.ofList (text.take (text.length - rest.length))), rest)

/-- Reads a number or a time. -/
def number? (text : List Char) : Option (Toml × List Char) :=
  time? text <|>
    match text with
    | '0' :: 'x' :: rest => prefixedInteger? 16 rest
    | '0' :: 'o' :: rest => prefixedInteger? 8 rest
    | '0' :: 'b' :: rest => prefixedInteger? 2 rest
    | '+' :: rest => specialFloat? rest <|> decimal? false rest
    | '-' :: rest => specialFloat? rest <|> decimal? true rest
    | text => decimal? false text

/-! ## Values -/

/-- Reads the items of an array after its bracket; `items` holds those before, in reverse. -/
def arrayItems? (value? : List Char → Option (Toml × List Char)) :
    (steps : Nat) → (items : List Toml) → List Char → Option (Toml × List Char)
  | 0, _, _ => none
  | steps + 1, items, text => do
    match ← skipLines? (text.length + 1) text with
    | ']' :: rest => some (.array items.reverse, rest)
    | text =>
      let (value, rest) ← value? text
      match ← skipLines? (rest.length + 1) rest with
      | ',' :: rest => arrayItems? value? steps (value :: items) rest
      | ']' :: rest => some (.array (value :: items).reverse, rest)
      | _ => none

/-- Reads a key and its value within a line. -/
def assignment? (value? : List Char → Option (Toml × List Char)) (text : List Char) :
    Option ((Key × Toml) × List Char) := do
  let (key, rest) ← key? (maxDepth - 1) text
  match rest with
  | '=' :: rest =>
    let (value, rest) ← value? (skipBlanks rest)
    some ((key, value), rest)
  | _ => none

/-- Reads the members of an inline table after its first brace or a comma. -/
def inlineMembers? (value? : List Char → Option (Toml × List Char)) :
    (steps : Nat) → (members : List (Key × Toml)) → List Char → Option (Toml × List Char)
  | 0, _, _ => none
  | steps + 1, members, text => do
    let (member, rest) ← assignment? value? text
    match skipBlanks rest with
    | ',' :: rest => inlineMembers? value? steps (member :: members) rest
    | '\x7d' :: rest => some (← inlineTable? (member :: members).reverse, rest)
    | _ => none

/-- Reads a value that may have fewer than `depth` levels below it. -/
def value? (depth : Nat) (text : List Char) : Option (Toml × List Char) :=
  match text with
  | [] => none
  | c :: rest =>
    if c = '"' ∨ c = '\'' then (string? (c :: rest)).map fun (text, rest) => (.string text, rest)
    else if c = '[' then
      match depth with
      | 0 | 1 => none
      | depth + 2 => arrayItems? (value? (depth + 1)) (rest.length + 1) [] rest
    else if c = '\x7b' then
      match depth with
      | 0 | 1 => none
      | depth + 2 =>
        match skipBlanks rest with
        | '\x7d' :: rest => some (.table [], rest)
        | rest => inlineMembers? (value? (depth + 1)) (rest.length + 1) [] rest
    else if c = '+' ∨ c = '-' ∨ c.isDigit then number? (c :: rest)
    else if c = 't' then (word? "true".toList (c :: rest)).map fun rest => (.boolean true, rest)
    else if c = 'f' then (word? "false".toList (c :: rest)).map fun rest => (.boolean false, rest)
    else specialFloat? (c :: rest)

/-! ## Documents -/

/-- Reads a statement at the start of a line. -/
def statement? (text : List Char) : Option (Statement × List Char) := do
  match text with
  | '[' :: '[' :: rest =>
    let (key, rest) ← key? (maxDepth - 1) rest
    some (.arrayHeader key, ← lineEnd? (← word? [']', ']'] rest))
  | '[' :: rest =>
    let (key, rest) ← key? (maxDepth - 1) rest
    some (.header key, ← lineEnd? (← word? [']'] rest))
  | text =>
    let ((key, value), rest) ← assignment? (value? maxDepth) text
    some (.assign key value, ← lineEnd? rest)

/-- Reads all statements of a text; `steps` bounds their number. -/
def statements? : (steps : Nat) → List Char → Option (List Statement)
  | 0, _ => none
  | steps + 1, text => do
    match ← skipLinesToEnd? (text.length + 1) text with
    | [] => some []
    | text =>
      let (statement, rest) ← statement? text
      some (statement :: (← statements? steps rest))
where
  /-- Passes over blank lines and comments, the last of which may end with the text. -/
  skipLinesToEnd? : (steps : Nat) → List Char → Option (List Char)
    | 0, _ => none
    | steps + 1, text =>
      match skipBlanks text with
      | '#' :: rest =>
        match rest.dropWhile isPlain with
        | [] => some []
        | rest => do skipLinesToEnd? steps (← newline? rest)
      | '\n' :: rest => skipLinesToEnd? steps rest
      | '\r' :: '\n' :: rest => skipLinesToEnd? steps rest
      | rest => some rest

/-- The members of the table that a text describes; a byte order mark at its start does not count. -/
def parse? (text : String) : Option (List (String × Toml)) := do
  let chars := match text.toList with
    | '\ufeff' :: rest => rest
    | chars => chars
  ofStatements? (← statements? (chars.length + 1) chars)

end CodeSearch.Toml
