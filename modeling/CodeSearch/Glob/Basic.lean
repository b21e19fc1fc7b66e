import CodeSearch.Pattern.Matcher
import CodeSearch.Text.Os

/-!
# Globs

A `Glob` is a pattern for `/`-separated paths.  `*` and `?` stay within a segment, `**` spans whole
segments, `[...]` is a class and `{...}` lists alternatives.  `Glob.pattern` gives a glob its meaning
as a pattern over the bytes of a path, and `Glob.accepts` matches a path against it.

Since matching works on bytes, `?` is one byte, and a class holds the bytes of its members: a member
outside ASCII stands for each byte of its UTF-8 form.
-/

namespace CodeSearch

namespace Glob

/-- What a glob consists of. -/
inductive Token where
  /-- A character that stands for itself. -/
  | literal (c : Char)
  /-- `?` -/
  | any
  /-- `*` -/
  | zeroOrMore
  /-- `**/` at the start -/
  | recursivePrefix
  /-- `/**` at the end -/
  | recursiveSuffix
  /-- `/**/` -/
  | recursiveZeroOrMore
  /-- `[...]` -/
  | set (negated : Bool) (ranges : List (Char × Char))
  /-- `{...}` -/
  | alternates (branches : List (List Token))

/-- Any byte. -/
def anyByte : Pattern UInt8 := .one fun _ => true

/-- Any byte within a segment. -/
def segmentByte : Pattern UInt8 := .one (· != slash)

/-- The byte ranges that a range of characters stands for: the bytes of both ends, and everything from
the last byte of the first to the first byte of the last. -/
def byteRanges (range : Char × Char) : List (UInt8 × UInt8) :=
  let single (bytes : List UInt8) : List (UInt8 × UInt8) := bytes.map fun b => (b, b)
  let first := String.utf8EncodeChar range.1
  let last := String.utf8EncodeChar range.2
  if range.1 = range.2 then single first
  else
    single first.dropLast ++
      (first.getLast?.toList.zip last.head?.toList) ++ single (last.drop 1)

/-- Whether a class of byte ranges holds a byte. -/
def inRanges (ranges : List (UInt8 × UInt8)) (b : UInt8) : Bool :=
  ranges.any fun r => r.1 ≤ b && b ≤ r.2

mutual

/-- Whether a token contributes nothing, which only alternatives without content do. -/
def Token.isBlank : Token → Bool
  | .alternates branches => areBlank branches
  | _ => false

/-- Whether all tokens of a branch contribute nothing. -/
def isBlankBranch : List Token → Bool
  | [] => true
  | token :: rest => token.isBlank && isBlankBranch rest

/-- Whether all branches contribute nothing. -/
def areBlank : List (List Token) → Bool
  | [] => true
  | branch :: rest => isBlankBranch branch && areBlank rest

end

mutual

/-- What a token matches. -/
def Token.pattern : Token → Pattern UInt8
  | .literal c => .literal (String.utf8EncodeChar c)
  | .any => segmentByte
  | .zeroOrMore => .star segmentByte
  | .recursivePrefix => .alt (.optional (.literal [slash])) (.seq (.star anyByte) (.literal [slash]))
  | .recursiveSuffix => .seq (.literal [slash]) (.star anyByte)
  | .recursiveZeroOrMore =>
    .alt (.literal [slash]) (.seq (.literal [slash]) (.seq (.star anyByte) (.literal [slash])))
  | .set negated ranges =>
    let bytes := ranges.flatMap byteRanges
    .one fun b => inRanges bytes b != negated
  | .alternates branches => alternatives branches

/-- What tokens match one after the other. -/
def sequencePattern : List Token → Pattern UInt8
  | [] => .empty
  | token :: rest => .seq token.pattern (sequencePattern rest)

/-- What some branch matches; a branch without content is left out, and so is a group in which no
branch has any. -/
def alternatives : List (List Token) → Pattern UInt8
  | [] => .empty
  | branch :: rest =>
    if isBlankBranch branch then alternatives rest
    else if areBlank rest then sequencePattern branch
    else .alt (sequencePattern branch) (alternatives rest)

end

/-- The meaning of a whole glob; `**/` alone matches everything. -/
def patternOf : List Token → Pattern UInt8
  | [.recursivePrefix] => .star anyByte
  | tokens => sequencePattern tokens

end Glob

/-- A compiled glob. -/
structure Glob where
  /-- What the glob consists of. -/
  tokens : List Glob.Token

namespace Glob

/-- The meaning of a glob over the bytes of paths. -/
def pattern (glob : Glob) : Pattern UInt8 := patternOf glob.tokens

/-- Whether a path matches. -/
def accepts (glob : Glob) (path : OsText) : Bool := glob.pattern.describes path.bytes

/-- A glob text that stands for `text` literally: every character with a meaning of its own is put
into a class. -/
def escape (text : String) : String :=
  String.ofList (text.toList.flatMap fun c =>
    if c ∈ ['?', '*', '[', ']', '\x7b', '\x7d'] then ['[', c, ']'] else [c])

end Glob

end CodeSearch
