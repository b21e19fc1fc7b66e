import CodeSearch.Pattern.Basic
import CodeSearch.Regex.Expr
import CodeSearch.Unicode.Named

/-!
# Regular expressions

`Regex` is a regular expression whose flags and classes have been given their meaning, and
`Regex.pattern` the pattern over characters that it stands for.  `Regex.ofExpr?` interprets a written
expression: flags hold from where they are set to the end of the group around them, and a class without
Unicode may hold ASCII characters only.
-/

namespace CodeSearch

open Unicode (CharSet)

/-- A condition on a position in a text. -/
inductive Regex.Condition where
  | textStart
  | textEnd
  | lineStart (crlf : Bool)
  | lineEnd (crlf : Bool)
  | word (test : Bool → Bool → Bool) (unicode : Bool)

/-- Whether a condition holds between two characters. -/
def Regex.Condition.holds (before after : Option Char) : Regex.Condition → Bool
  | textStart => before.isNone
  | textEnd => after.isNone
  | lineStart false => before.isNone || before == some '\n'
  | lineEnd false => after.isNone || after == some '\n'
  | lineStart true =>
    before.isNone || before == some '\n' || (before == some '\r' && after != some '\n')
  | lineEnd true =>
    after.isNone || after == some '\r' || (after == some '\n' && before != some '\r')
  | word test unicode =>
    let isWord (c : Option Char) : Bool :=
      c.any fun c => if unicode then Unicode.isWordChar c else c.isAlphanum || c == '_'
    test (isWord before) (isWord after)

/-- A regular expression over characters. -/
inductive Regex where
  | empty
  | char (c : Char)
  | set (members : CharSet)
  | look (condition : Regex.Condition)
  | repetition (body : Regex) (least : Nat) (most : Option Nat)
  | capture (body : Regex)
  | alternation (branches : List Regex)
  | concat (parts : List Regex)

namespace Regex

/-- The pattern that a regular expression stands for. -/
def pattern : Regex → Pattern Char
  | empty => .empty
  | char c => .one (· == c)
  | set members => .one members.contains
  | look condition => .look condition.holds
  | repetition body least most => body.pattern.repeated least most
  | capture body => body.pattern
  | alternation branches => .anyOf (patterns branches)
  | concat parts => .sequence (patterns parts)
where
  patterns : List Regex → List (Pattern Char)
    | [] => []
    | part :: rest => part.pattern :: patterns rest

/-- The regular expression of a literal text. -/
def literal (text : String) : Regex := .concat (text.toList.map .char)

/-- The flags in force at a place of an expression. -/
structure Flags where
  /-- Letters stand for all their case variants. -/
  caseInsensitive : Bool := false
  /-- `^` and `$` also hold at the ends of lines. -/
  multiLine : Bool := false
  /-- A dot stands for a line feed too. -/
  dotMatchesNewLine : Bool := false
  /-- Classes and word boundaries see all of Unicode. -/
  unicode : Bool := true
  /-- Lines also end at a carriage return. -/
  crlf : Bool := false

/-- The flags after one change. -/
def Flags.change (flags : Flags) : FlagChange → Flags
  | (.caseInsensitive, on) => { flags with caseInsensitive := on }
  | (.multiLine, on) => { flags with multiLine := on }
  | (.dotMatchesNewLine, on) => { flags with dotMatchesNewLine := on }
  | (.unicode, on) => { flags with unicode := on }
  | (.crlf, on) => { flags with crlf := on }
  | (.swapGreed, _) | (.ignoreWhitespace, _) => flags

/-- The set with the other case of its ASCII letters. -/
def closeUnderAsciiCase (s : CharSet) : CharSet :=
  let letters := s.inter (CharSet.ofRanges [(65, 90), (97, 122)])
  let shift (r : Nat × Nat) : Nat × Nat :=
    if r.1 < 97 then (r.1 + 32, r.2 + 32) else (r.1 - 32, r.2 - 32)
  s.union (CharSet.ofRanges (letters.ranges.toList.map shift))

/-- The set with all case variants of its members, as the flags have it. -/
def Flags.closeUnderCase (flags : Flags) (s : CharSet) : CharSet :=
  if flags.unicode then s.closeUnderCase else closeUnderAsciiCase s

/-- Folds a set if the flags say so and then negates it; without Unicode a negated set would hold
parts of characters, so there is none. -/
def Flags.finish? (flags : Flags) (negated : Bool) (s : CharSet) : Option CharSet :=
  let s := if flags.caseInsensitive then flags.closeUnderCase s else s
  if negated then (if flags.unicode then some s.compl else none) else some s

/-- The set of a one-letter class. -/
def Flags.shorthand? (flags : Flags) (kind : Shorthand) (negated : Bool) : Option CharSet :=
  let all := match kind with
    | .digit => Unicode.decimalDigits
    | .space => Unicode.whiteSpace
    | .word => Unicode.wordCharacters
  if flags.unicode then some (if negated then all.compl else all)
  else if negated then none
  else some (match kind with
    | .digit => CharSet.ofRange '0' '9'
    | .space => CharSet.ofRanges [(9, 13), (32, 32)]
    | .word => CharSet.ofRanges [(48, 57), (65, 90), (95, 95), (97, 122)])

/-- The set of a character property. -/
def Flags.property? (flags : Flags) (name : PropertyName) (negated : Bool) : Option CharSet :=
  if flags.unicode then do
    let s ← match name with
      | .single name => Unicode.set? name
      | .valued property value => Unicode.valueSet? property value
    flags.finish? negated s
  else none

/-- Whether a literal can stand in a class. -/
def Flags.admits (flags : Flags) (value : Literal) : Bool :=
  flags.unicode || value.char.toNat < 128

/-- The set of a class. -/
def Flags.classSet? (flags : Flags) : ClassExpr → Option CharSet
  | .empty => some .empty
  | .literal value =>
    if flags.admits value then some (CharSet.ofRange value.char value.char) else none
  | .range first last =>
    if flags.admits first && flags.admits last then some (CharSet.ofRange first.char last.char)
    else none
  | .ascii ranges negated =>
    flags.finish? negated (CharSet.ofRanges (ranges.map fun r => (r.1.toNat, r.2.toNat)))
  | .property name negated => flags.property? name negated
  | .shorthand kind negated => flags.shorthand? kind negated
  | .bracketed inner negated => (flags.classSet? inner).bind (flags.finish? negated)
  | .union items => (sets items).map fun sets =>
    CharSet.ofRanges (sets.flatMap fun s => s.ranges.toList)
  | .operation op left right => do
    let fold (s : CharSet) : CharSet :=
      if flags.caseInsensitive then flags.closeUnderCase s else s
    let left := fold (← flags.classSet? left)
    let right := fold (← flags.classSet? right)
    match op with
      | .intersection => left.inter right
      | .difference => left.diff right
      | .symmetricDifference => left.symmDiff right
where
  sets : List ClassExpr → Option (List CharSet)
    | [] => some []
    | item :: rest => do
      let first ← flags.classSet? item
      let others ← sets rest
      some (first :: others)

/-- The condition of an assertion. -/
def Flags.condition (flags : Flags) : Assertion → Condition
  | .lineStart => if flags.multiLine then .lineStart flags.crlf else .textStart
  | .lineEnd => if flags.multiLine then .lineEnd flags.crlf else .textEnd
  | .textStart => .textStart
  | .textEnd => .textEnd
  | .wordBoundary => .word (fun before after => before != after) flags.unicode
  | .notWordBoundary => .word (fun before after => before == after) flags.unicode
  | .wordStart => .word (fun before after => !before && after) flags.unicode
  | .wordEnd => .word (fun before after => before && !after) flags.unicode
  | .wordStartHalf => .word (fun before _ => !before) flags.unicode
  | .wordEndHalf => .word (fun _ after => !after) flags.unicode

/-- The expression of a literal. -/
def Flags.literal? (flags : Flags) (value : Literal) : Option Regex :=
  let c := value.char
  if !flags.unicode && value.isByte && 128 ≤ c.toNat then none
  else if flags.caseInsensitive then
    let all := flags.closeUnderCase (CharSet.ofRange c c)
    some (if all = CharSet.ofRange c c then .char c else .set all)
  else some (.char c)

/-- What a dot stands for. -/
def Flags.dot? (flags : Flags) : Option Regex :=
  if flags.unicode then
    let excluded := if flags.dotMatchesNewLine then "" else if flags.crlf then "\r\n" else "\n"
    some (.set (CharSet.ofString excluded).compl)
  else none

/-- The meaning of a written expression under some flags, and the flags after it. -/
def interpret? (flags : Flags) : Expr → Option (Regex × Flags)
  | .empty => some (.empty, flags)
  | .flags changes => some (.empty, changes.foldl Flags.change flags)
  | .literal value => (flags.literal? value).map (·, flags)
  | .dot => flags.dot?.map (·, flags)
  | .assertion kind => some (.look (flags.condition kind), flags)
  | .set contents => (flags.classSet? contents).map fun s => (.set s, flags)
  | .repetition body least most => do
    let (body, flags) ← interpret? flags body
    some (.repetition body least most, flags)
  | .capture body => do
    let (body, _) ← interpret? flags body
    some (.capture body, flags)
  | .group changes body => do
    let (body, _) ← interpret? (changes.foldl Flags.change flags) body
    some (body, flags)
  | .alternation branches => do
    let (branches, flags) ← all flags branches
    some (.alternation branches, flags)
  | .concat parts => do
    let (parts, flags) ← all flags parts
    some (.concat parts, flags)
where
  all (flags : Flags) : List Expr → Option (List Regex × Flags)
    | [] => some ([], flags)
    | part :: rest => do
      let (part, flags) ← interpret? flags part
      let (rest, flags) ← all flags rest
      some (part :: rest, flags)

/-- The meaning of a written expression. -/
def ofExpr? (expr : Expr) : Option Regex := (interpret? {} expr).map (·.1)

end Regex

end CodeSearch
