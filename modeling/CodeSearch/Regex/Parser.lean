import CodeSearch.Regex.Expr
import CodeSearch.Unicode.Named

/-!
# Reading regular expressions

`Expr.parse?` reads the text of a regular expression.  The reader keeps a stack of open groups, and
for character classes a stack of open brackets; each step consumes at least one character, so the
length of the text bounds the steps.  A text that is no regular expression has no reading: which rule
it breaks is not recorded.
-/

namespace CodeSearch.Regex

open CodeSearch.Unicode (isWhiteSpace)

/-- Drops white space and `#` comments up to the end of their lines. -/
def dropComments : List Char → List Char
  | [] => []
  | '#' :: rest => skipLine rest
  | c :: rest => if isWhiteSpace c then dropComments rest else c :: rest
where
  skipLine : List Char → List Char
    | [] => []
    | '\n' :: rest => dropComments rest
    | _ :: rest => skipLine rest

/-- The rest of a text from its next significant character on. -/
def significant (verbose : Bool) (text : List Char) : List Char :=
  if verbose then dropComments text else text

/-- The value of a hexadecimal digit. -/
def hexDigit? (c : Char) : Option Nat :=
  if '0' ≤ c ∧ c ≤ '9' then some (c.toNat - '0'.toNat)
  else if 'a' ≤ c ∧ c ≤ 'f' then some (c.toNat - 'a'.toNat + 10)
  else if 'A' ≤ c ∧ c ≤ 'F' then some (c.toNat - 'A'.toNat + 10)
  else none

/-- The character with the given hexadecimal code. -/
def hexChar? (digits : List Char) : Option Char := do
  let values ← digits.mapM hexDigit?
  if values.isEmpty then none
  let code := values.foldl (fun n d => n * 16 + d) 0
  if h : code.isValidChar then some (Char.ofNatAux code h) else none

/-- The characters that have a meaning of their own and stand for themselves after a backslash. -/
def isMeta (c : Char) : Bool := "\\.+*?()|[]\x7b\x7d^$#&-~".toList.contains c

/-- Whether a backslash before `c` may be left out. -/
def isEscapable (c : Char) : Bool :=
  isMeta c || (c.toNat < 128 && !c.isAlphanum && c != '<' && c != '>')

/-- The smallest parts of an expression. -/
inductive Atom where
  | literal (value : Literal)
  | assertion (kind : Assertion)
  | property (name : PropertyName) (negated : Bool)
  | shorthand (kind : Shorthand) (negated : Bool)
  | dot

/-- Reads up to `count` hexadecimal digits of an escape such as `\x41`. -/
def hexDigits? (verbose : Bool) : (count : Nat) → List Char → Option (List Char × List Char)
  | 0, text => some ([], text)
  | _, [] => none
  | count + 1, c :: rest => do
    let _ ← hexDigit? c
    let (digits, rest) ← hexDigits? verbose count (significant verbose rest)
    some (c :: digits, rest)

/-- Reads the characters up to a closing brace, white space and comments aside. -/
def untilBrace? (verbose : Bool) : (steps : Nat) → List Char → Option (List Char × List Char)
  | 0, _ | _, [] => none
  | _, '\x7d' :: rest => some ([], rest)
  | steps + 1, c :: rest => do
    let (inside, rest) ← untilBrace? verbose steps (significant verbose rest)
    some (c :: inside, rest)

/-- The kind of property name that a text between braces is. -/
def PropertyName.ofText (text : List Char) : PropertyName × Bool :=
  let cut (before after : List Char) : PropertyName :=
    .valued (String.ofList before) (String.ofList after)
  let rec unequal (before : List Char) : List Char → Option (List Char × List Char)
    | '!' :: '=' :: rest => some (before.reverse, rest)
    | c :: rest => unequal (c :: before) rest
    | [] => none
  match unequal [] text with
  | some (before, after) => (cut before after, true)
  | none =>
    let mark := if text.contains ':' then ':' else '='
    match text.span (· != mark) with
    | (before, _ :: after) => (cut before after, false)
    | (name, []) => (.single (String.ofList name), false)

/-- Reads the name of a property after `\p`. -/
def property? (verbose negated : Bool) (text : List Char) : Option (Atom × List Char) :=
  match significant verbose text with
  | [] => none
  | '\x7b' :: rest => do
    let (name, rest) ← untilBrace? verbose (rest.length + 1) (significant verbose rest)
    let (name, unequal) := PropertyName.ofText name
    some (.property name (negated != unequal), rest)
  | '\\' :: _ => none
  | c :: rest => some (.property (.single (String.singleton c)) negated, significant verbose rest)

/-- Reads what may follow `\b`: the name of a word boundary in braces. -/
def boundaryName? (verbose : Bool) (text : List Char) : Option (Assertion × List Char) :=
  let isNameChar (c : Char) : Bool := c.isAlpha || c == '-'
  match text with
  | '\x7b' :: inside =>
    match significant verbose inside with
    | [] => none
    | c :: rest =>
      if isNameChar c then do
        let (name, rest) ← untilBrace? verbose (rest.length + 2) (c :: rest)
        let kind ← match String.ofList name with
          | "start" => some .wordStart
          | "end" => some .wordEnd
          | "start-half" => some .wordStartHalf
          | "end-half" => some .wordEndHalf
          | _ => none
        some (kind, rest)
      else some (.wordBoundary, text)
  | _ => some (.wordBoundary, text)

/-- Reads an escape, after its backslash. -/
def escape? (verbose : Bool) : List Char → Option (Atom × List Char)
  | [] => none
  | c :: rest =>
    let plain (c : Char) : Option (Atom × List Char) := some (.literal ⟨c, false⟩, rest)
    let hex (count : Nat) : Option (Atom × List Char) :=
      match significant verbose rest with
      | [] => none
      | '\x7b' :: inside => do
        let (digits, rest) ← untilBrace? verbose (inside.length + 1) (significant verbose inside)
        let char ← hexChar? digits
        some (.literal ⟨char, false⟩, significant verbose rest)
      | text => do
        let (digits, rest) ← hexDigits? verbose count text
        let char ← hexChar? digits
        some (.literal ⟨char, count == 2⟩, rest)
    match c with
    | 'x' => hex 2
    | 'u' => hex 4
    | 'U' => hex 8
    | 'p' => property? verbose false rest
    | 'P' => property? verbose true rest
    | 'd' => some (.shorthand .digit false, rest)
    | 'D' => some (.shorthand .digit true, rest)
    | 's' => some (.shorthand .space false, rest)
    | 'S' => some (.shorthand .space true, rest)
    | 'w' => some (.shorthand .word false, rest)
    | 'W' => some (.shorthand .word true, rest)
    | 'a' => plain '\x07'
    | 'f' => plain '\x0c'
    | 't' => plain '\t'
    | 'n' => plain '\n'
    | 'r' => plain '\r'
    | 'v' => plain '\x0b'
    | 'A' => some (.assertion .textStart, rest)
    | 'z' => some (.assertion .textEnd, rest)
    | 'b' => (boundaryName? verbose rest).map fun (kind, rest) => (.assertion kind, rest)
    | 'B' => some (.assertion .notWordBoundary, rest)
    | '<' => some (.assertion .wordStart, rest)
    | '>' => some (.assertion .wordEnd, rest)
    | c => if isEscapable c then plain c else none

/-- The ranges of the classes that are named within brackets. -/
def asciiRanges? : String → Option (List (Char × Char))
  | "alnum" => some [('0', '9'), ('A', 'Z'), ('a', 'z')]
  | "alpha" => some [('A', 'Z'), ('a', 'z')]
  | "ascii" => some [('\x00', '\x7f')]
  | "blank" => some [('\t', '\t'), (' ', ' ')]
  | "cntrl" => some [('\x00', '\x1f'), ('\x7f', '\x7f')]
  | "digit" => some [('0', '9')]
  | "graph" => some [('!', '~')]
  | "lower" => some [('a', 'z')]
  | "print" => some [(' ', '~')]
  | "punct" => some [('!', '/'), (':', '@'), ('[', '\x60'), ('\x7b', '~')]
  | "space" => some [('\t', '\r'), (' ', ' ')]
  | "upper" => some [('A', 'Z')]
  | "word" => some [('0', '9'), ('A', 'Z'), ('_', '_'), ('a', 'z')]
  | "xdigit" => some [('0', '9'), ('A', 'F'), ('a', 'f')]
  | _ => none

/-- Reads a class such as `[:alpha:]`, after its opening bracket. -/
def asciiClass? (text : List Char) : Option (ClassExpr × List Char) :=
  match text with
  | ':' :: rest =>
    let (negated, rest) := match rest with
      | '^' :: rest => (true, rest)
      | _ => (false, rest)
    match rest.span (· != ':') with
    | (name, ':' :: ']' :: rest) =>
      (asciiRanges? (String.ofList name)).map fun ranges => (.ascii ranges negated, rest)
    | _ => none
  | _ => none

namespace ClassExpr

/-- The items of a class that were read so far, last one first. -/
abbrev Items := List ClassExpr

/-- The class of all items. -/
def ofItems (items : Items) : ClassExpr :=
  match items with
  | [] => .empty
  | [item] => item
  | _ => .union items.reverse

/-- An open bracket or a set operation that waits for its right side. -/
inductive Frame where
  | openBracket (outer : Items) (negated : Bool)
  | pending (op : SetOperation) (left : ClassExpr)

/-- Completes the operation on top of the stack with its right side. -/
def closeOperation (stack : List Frame) (right : ClassExpr) : List Frame × ClassExpr :=
  match stack with
  | .pending op left :: rest => (rest, .operation op left right)
  | _ => (stack, right)

/-- Reads what follows an opening bracket: a negation, hyphens, and a closing bracket that stands for
itself. -/
def opening? (verbose : Bool) (text : List Char) : Option (Items × Bool × List Char) :=
  let rec hyphens (items : Items) : (steps : Nat) → List Char → Option (Items × List Char)
    | 0, _ | _, [] => none
    | steps + 1, '-' :: rest =>
      hyphens (.literal ⟨'-', false⟩ :: items) steps (significant verbose rest)
    | _, text => some (items, text)
  let text := significant verbose text
  let (negated, text) := match text with
    | '^' :: rest => (true, significant verbose rest)
    | _ => (false, text)
  match hyphens [] (text.length + 1) text with
  | some ([], ']' :: rest) =>
    match significant verbose rest with
    | [] => none
    | rest => some ([.literal ⟨']', false⟩], negated, rest)
  | some (items, rest) => some (items, negated, rest)
  | none => none

/-- Reads a single member of a class. -/
def member? (verbose : Bool) : List Char → Option (Atom × List Char)
  | [] => none
  | '\\' :: rest => escape? verbose rest
  | c :: rest => some (.literal ⟨c, false⟩, rest)

/-- A member of a class that is not the end of a range. -/
def ofAtom? : Atom → Option ClassExpr
  | .literal value => some (.literal value)
  | .property name negated => some (.property name negated)
  | .shorthand kind negated => some (.shorthand kind negated)
  | .assertion _ | .dot => none

/-- The significant character after the one that `text` starts with. -/
def following? (verbose : Bool) (text : List Char) : Option Char :=
  if verbose then
    match (text.drop 1).dropWhile isWhiteSpace with
    | '#' :: rest => (rest.dropWhile isWhiteSpace).head?
    | rest => rest.head?
  else (text.drop 1).head?

/-- Reads a member or a range of members. -/
def item? (verbose : Bool) (text : List Char) : Option (ClassExpr × List Char) := do
  let (first, rest) ← member? verbose text
  match significant verbose rest with
  | [] => none
  | '-' :: after =>
    let next := following? verbose ('-' :: after)
    if next = some ']' ∨ next = some '-' then
      return (← ofAtom? first, '-' :: after)
    match significant verbose after with
    | [] => none
    | after =>
      match first, ← member? verbose after with
      | .literal first, (.literal last, rest) =>
        if first.char ≤ last.char then some (.range first last, rest) else none
      | _, _ => none
  | rest => return (← ofAtom? first, rest)

/-- Reads a class after its first bracket was opened. -/
def contents? (verbose : Bool) : (steps : Nat) → List Frame → Items → List Char →
    Option (ClassExpr × List Char)
  | 0, _, _, _ => none
  | steps + 1, stack, items, text =>
    match significant verbose text with
    | [] => none
    | '[' :: rest =>
      match asciiClass? rest with
      | some (item, rest) => contents? verbose steps stack (item :: items) rest
      | none => do
        let (inner, negated, rest) ← opening? verbose rest
        contents? verbose steps (.openBracket items negated :: stack) inner rest
    | ']' :: rest =>
      match closeOperation stack (ofItems items) with
      | ([.openBracket _ negated], inner) => some (.bracketed inner negated, rest)
      | (.openBracket outer negated :: stack, inner) =>
        contents? verbose steps stack (.bracketed inner negated :: outer) rest
      | _ => none
    | '&' :: '&' :: rest => operator steps stack items .intersection rest
    | '-' :: '-' :: rest => operator steps stack items .difference rest
    | '~' :: '~' :: rest => operator steps stack items .symmetricDifference rest
    | text => do
      let (item, rest) ← item? verbose text
      contents? verbose steps stack (item :: items) rest
where
  /-- Puts an operation on the stack, with everything before it as its left side. -/
  operator (steps : Nat) (stack : List Frame) (items : Items) (op : SetOperation)
      (rest : List Char) : Option (ClassExpr × List Char) :=
    let (stack, left) := closeOperation stack (ofItems items)
    contents? verbose steps (.pending op left :: stack) [] rest

/-- Reads a class, after its first bracket. -/
def parse? (verbose : Bool) (text : List Char) : Option (ClassExpr × List Char) := do
  let (items, negated, rest) ← opening? verbose text
  contents? verbose (text.length + 1) [.openBracket [] negated] items rest

end ClassExpr

/-- Reads a decimal number below `2 ^ 32` with white space around it. -/
def count? (verbose : Bool) (text : List Char) : Option (Nat × List Char) :=
  let rec digits (found : List Char) : (steps : Nat) → List Char → List Char × List Char
    | 0, text => (found.reverse, text)
    | _, [] => (found.reverse, [])
    | steps + 1, c :: rest =>
      if c.isDigit then digits (c :: found) steps (significant verbose rest)
      else (found.reverse, c :: rest)
  let text := text.dropWhile isWhiteSpace
  let (found, rest) := digits [] text.length text
  let value := found.foldl (fun n c => n * 10 + (c.toNat - '0'.toNat)) 0
  if found.isEmpty ∨ Nat.pow 2 32 ≤ value then none
  else some (value, significant verbose (rest.dropWhile isWhiteSpace))

/-- The number of repetitions that braces give, after the opening one. -/
def bounds? (verbose : Bool) (text : List Char) : Option (Nat × Option Nat × List Char) := do
  let (least, rest) ← count? verbose (significant verbose text)
  match rest with
  | '\x7d' :: rest => some (least, some least, rest)
  | ',' :: rest =>
    match significant verbose rest with
    | '\x7d' :: rest => some (least, none, rest)
    | rest =>
      let (most, rest) ← count? verbose rest
      match rest with
      | '\x7d' :: rest => if least ≤ most then some (least, some most, rest) else none
      | _ => none
  | _ => none

/-- Drops the `?` that makes a repetition lazy; laziness has no part in what is matched. -/
def dropLazy : List Char → List Char
  | '?' :: rest => rest
  | text => text

/-- The letter of a flag. -/
def flag? : Char → Option Flag
  | 'i' => some .caseInsensitive
  | 'm' => some .multiLine
  | 's' => some .dotMatchesNewLine
  | 'U' => some .swapGreed
  | 'u' => some .unicode
  | 'R' => some .crlf
  | 'x' => some .ignoreWhitespace
  | _ => none

/-- Reads flags up to `:` or `)`: none twice, one `-` at most, and something after it. -/
def flagChanges? (on : Bool) (found : List FlagChange) :
    List Char → Option (List FlagChange × List Char)
  | [] => none
  | '-' :: rest =>
    match rest with
    | ':' :: _ | ')' :: _ => none
    | _ => if on then flagChanges? false found rest else none
  | c :: rest =>
    if c = ':' ∨ c = ')' then some (found.reverse, c :: rest)
    else do
      let flag ← flag? c
      if found.any (·.1 == flag) then none
      else flagChanges? on ((flag, on) :: found) rest

/-- What an opening parenthesis begins. -/
inductive Opening where
  /-- A group that is remembered, with its name if it has one. -/
  | capture (name : Option String)
  /-- A group with flags of its own. -/
  | group (changes : List FlagChange)
  /-- Flags for the rest of the group around. -/
  | setFlags (changes : List FlagChange)

/-- Reads the name of a group up to `>`. -/
def groupName? (text : List Char) : Option (String × List Char) :=
  let isFirst (c : Char) : Bool := c == '_' || Unicode.alphabetic.contains c
  let isLater (c : Char) : Bool :=
    isFirst c || c == '.' || c == '[' || c == ']' || Unicode.numeric.contains c
  match text.span (· != '>') with
  | (first :: later, _ :: rest) =>
    if isFirst first && later.all isLater then some (String.ofList (first :: later), rest) else none
  | _ => none

/-- Reads what follows an opening parenthesis. -/
def opening? (verbose : Bool) (text : List Char) : Option (Opening × List Char) :=
  match significant verbose text with
  | '?' :: 'P' :: '<' :: rest | '?' :: '<' :: rest =>
    match rest with
    | '=' :: _ | '!' :: _ => none
    | _ => (groupName? rest).map fun (name, rest) => (.capture (some name), rest)
  | '?' :: rest => do
    let (changes, rest) ← flagChanges? true [] rest
    match rest with
    | ':' :: rest => some (.group changes, rest)
    | _ :: rest => if changes.isEmpty then none else some (.setFlags changes, rest)
    | [] => none
  | rest => some (.capture none, rest)

namespace Expr

/-- The expression of parts that were read one after the other, last one first. -/
def ofParts : List Expr → Expr
  | [] => .empty
  | [part] => part
  | parts => .concat parts.reverse

/-- The expression of branches, last one first. -/
def ofBranches : List Expr → Expr
  | [branch] => branch
  | branches => .alternation branches.reverse

/-- A group that is still open: what stood before it, and whether white space was ignored there. -/
structure Frame where
  /-- What the parenthesis began. -/
  opening : Opening
  /-- The parts before the group, last one first. -/
  parts : List Expr
  /-- The branches before those parts, last one first. -/
  branches : List Expr
  /-- Whether white space was ignored before the group. -/
  verbose : Bool

/-- The group that a parenthesis began, around its contents. -/
def Frame.close (frame : Frame) (body : Expr) : Expr :=
  match frame.opening with
  | .capture _ => .capture body
  | .group changes => .group changes body
  | .setFlags changes => .flags changes

/-- Whether an expression can be repeated as it was written. -/
def isRepeatable : Expr → Bool
  | .empty | .flags _ => false
  | _ => true

/-- The expression of an atom. -/
def ofAtom : Atom → Expr
  | .literal value => .literal value
  | .assertion kind => .assertion kind
  | .property name negated => .set (.property name negated)
  | .shorthand kind negated => .set (.shorthand kind negated)
  | .dot => .dot

/-- Reads an atom. -/
def atom? (verbose : Bool) : List Char → Option (Atom × List Char)
  | [] => none
  | '\\' :: rest => escape? verbose rest
  | '.' :: rest => some (.dot, rest)
  | '^' :: rest => some (.assertion .lineStart, rest)
  | '$' :: rest => some (.assertion .lineEnd, rest)
  | c :: rest => some (.literal ⟨c, false⟩, rest)

/-- The switch for ignoring white space after some changes. -/
def verboseAfter (changes : List FlagChange) (verbose : Bool) : Bool :=
  ((changes.find? (·.1 == .ignoreWhitespace)).map (·.2)).getD verbose

/-- Reads the rest of an expression, given the open groups, the branches and the parts before. -/
def rest? : (steps : Nat) → (verbose : Bool) → (names : List String) → List Frame →
    (branches parts : List Expr) → List Char → Option Expr
  | 0, _, _, _, _, _, _ => none
  | steps + 1, verbose, names, stack, branches, parts, text =>
    let repeated (least : Nat) (most : Option Nat) (rest : List Char) : Option Expr :=
      match parts with
      | last :: before =>
        if last.isRepeatable then
          rest? steps verbose names stack branches (.repetition last least most :: before)
            (dropLazy rest)
        else none
      | [] => none
    match significant verbose text with
    | [] => if stack.isEmpty then some (ofBranches (ofParts parts :: branches)) else none
    | '(' :: rest =>
      (match Regex.opening? verbose rest with
      | none => none
      | some (.setFlags changes, rest) =>
        rest? steps (verboseAfter changes verbose) names stack branches
          (.flags changes :: parts) rest
      | some (.group changes, rest) =>
        rest? steps (verboseAfter changes verbose) names
          (⟨.group changes, parts, branches, verbose⟩ :: stack) [] [] rest
      | some (.capture name, rest) =>
        if name.any names.contains then none
        else rest? steps verbose (name.toList ++ names)
          (⟨.capture name, parts, branches, verbose⟩ :: stack) [] [] rest)
    | ')' :: rest =>
      match stack with
      | [] => none
      | frame :: stack =>
        let group := frame.close (ofBranches (ofParts parts :: branches))
        rest? steps frame.verbose names stack frame.branches (group :: frame.parts) rest
    | '|' :: rest => rest? steps verbose names stack (ofParts parts :: branches) [] rest
    | '[' :: rest => do
      let (contents, rest) ← ClassExpr.parse? verbose rest
      rest? steps verbose names stack branches (.set contents :: parts) rest
    | '?' :: rest => repeated 0 (some 1) rest
    | '*' :: rest => repeated 0 none rest
    | '+' :: rest => repeated 1 none rest
    | '\x7b' :: rest => do
      let (least, most, rest) ← bounds? verbose rest
      repeated least most (significant verbose rest)
    | text => do
      let (atom, rest) ← atom? verbose text
      rest? steps verbose names stack branches (ofAtom atom :: parts) rest

/-- The expression that a text is, if it is one and is not nested too deeply. -/
def parse? (text : String) : Option Expr := do
  let expr ← rest? (text.length + 1) false [] [] [] [] text.toList
  if expr.depth ≤ nestLimit then some expr else none

end Expr

end CodeSearch.Regex
