/-!
# Written regular expressions

`Expr` is a regular expression as it is written, before flags, classes and repetitions get their
meaning.  `Expr.depth` is how deeply its parts are nested, which is limited to `nestLimit`.
-/

namespace CodeSearch.Regex

/-- The switches that an expression can set for its parts. -/
inductive Flag where
  | caseInsensitive
  | multiLine
  | dotMatchesNewLine
  | swapGreed
  | unicode
  | crlf
  | ignoreWhitespace
  deriving DecidableEq, Repr

/-- A switch and whether it is turned on. -/
abbrev FlagChange := Flag × Bool

/-- The conditions on a position. -/
inductive Assertion where
  | lineStart
  | lineEnd
  | textStart
  | textEnd
  | wordBoundary
  | notWordBoundary
  | wordStart
  | wordEnd
  | wordStartHalf
  | wordEndHalf
  deriving DecidableEq, Repr

/-- A character as written; `isByte` if it was given by two hexadecimal digits. -/
structure Literal where
  /-- The character. -/
  char : Char
  /-- Whether it may stand for a byte. -/
  isByte : Bool
  deriving DecidableEq, Repr

/-- The classes with a one-letter escape. -/
inductive Shorthand where
  | digit
  | space
  | word
  deriving DecidableEq, Repr

/-- The ways to name a character property. -/
inductive PropertyName where
  | single (name : String)
  | valued (property value : String)
  deriving DecidableEq, Repr

/-- The operations between character classes. -/
inductive SetOperation where
  | intersection
  | difference
  | symmetricDifference
  deriving DecidableEq, Repr

/-- What can stand in a character class. -/
inductive ClassExpr where
  | empty
  | literal (value : Literal)
  | range (first last : Literal)
  | ascii (ranges : List (Char × Char)) (negated : Bool)
  | property (name : PropertyName) (negated : Bool)
  | shorthand (kind : Shorthand) (negated : Bool)
  | bracketed (inner : ClassExpr) (negated : Bool)
  | union (items : List ClassExpr)
  | operation (op : SetOperation) (left right : ClassExpr)

/-- A regular expression as written. -/
inductive Expr where
  | empty
  | flags (changes : List FlagChange)
  | literal (value : Literal)
  | dot
  | assertion (kind : Assertion)
  | set (contents : ClassExpr)
  | repetition (body : Expr) (least : Nat) (most : Option Nat)
  | capture (body : Expr)
  | group (changes : List FlagChange) (body : Expr)
  | alternation (branches : List Expr)
  | concat (parts : List Expr)

/-- How many levels of nesting an expression may have. -/
def nestLimit : Nat := 250

/-- The levels of nesting in a character class. -/
def ClassExpr.depth : ClassExpr → Nat
  | .bracketed inner _ => inner.depth + 1
  | .union items => go items + 1
  | .operation _ left right => max left.depth right.depth + 1
  | _ => 0
where
  go : List ClassExpr → Nat
    | [] => 0
    | item :: rest => max item.depth (go rest)

/-- The levels of nesting in an expression. -/
def Expr.depth : Expr → Nat
  | .set contents => contents.depth
  | .repetition body _ _ => body.depth + 1
  | .capture body => body.depth + 1
  | .group _ body => body.depth + 1
  | .alternation branches => go branches + 1
  | .concat parts => go parts + 1
  | _ => 0
where
  go : List Expr → Nat
    | [] => 0
    | part :: rest => max part.depth (go rest)

end CodeSearch.Regex
