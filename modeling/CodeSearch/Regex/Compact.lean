import CodeSearch.Regex.Basic

/-!
# The form from which automata are built

The automata of a regular expression are built from a simpler form of it.  Characters that follow one
another are one literal, a sequence in a sequence and a choice in a choice are taken apart, a choice
between single characters or between sets is a set, and what all branches of a choice begin with stands
once before the choice.  `Regex.compact` is this form of an expression.  Whether a repetition prefers many
turns or few is not part of it.
-/

namespace CodeSearch.Regex

open Unicode (CharSet)

/-- Whether two conditions are the same. -/
def Condition.same : Condition → Condition → Bool
  | .textStart, .textStart | .textEnd, .textEnd => true
  | .lineStart crlf, .lineStart other | .lineEnd crlf, .lineEnd other => crlf == other
  | .word test unicode, .word other otherUnicode =>
    unicode == otherUnicode &&
      [false, true].all fun before => [false, true].all fun after =>
        test before after == other before after
  | _, _ => false

/-- A regular expression in the form from which its automata are built.  The expression of the empty text
is the literal without characters. -/
inductive Compact where
  | literal (text : List Char)
  | set (members : CharSet)
  | look (condition : Condition)
  | repetition (body : Compact) (least : Nat) (most : Option Nat)
  | capture (body : Compact)
  | alternation (branches : List Compact)
  | concat (parts : List Compact)

namespace Compact

/-- Whether two expressions are the same.  No two captures are: each has a number of its own. -/
def same : Compact → Compact → Bool
  | .literal text, .literal other => text == other
  | .set members, .set others => members == others
  | .look condition, .look other => condition.same other
  | .repetition body least most, .repetition other otherLeast otherMost =>
    least == otherLeast && most == otherMost && body.same other
  | .alternation branches, .alternation others => go branches others
  | .concat parts, .concat others => go parts others
  | _, _ => false
where
  go : List Compact → List Compact → Bool
    | [], [] => true
    | first :: rest, other :: others => first.same other && go rest others
    | _, _ => false

/-- Whether an expression matches the empty text only. -/
def isZeroWidth : Compact → Bool
  | .literal text => text.isEmpty
  | .set _ => false
  | .look _ => true
  | .repetition body _ _ | .capture body => body.isZeroWidth
  | .alternation parts | .concat parts => go parts
where
  go : List Compact → Bool
    | [] => true
    | part :: rest => part.isZeroWidth && go rest

/-- How many characters an expression takes at least; unknown where a set has no members. -/
def leastLength? : Compact → Option Nat
  | .literal text => some text.length
  | .set members => if members.ranges.isEmpty then none else some 1
  | .look _ => some 0
  | .repetition body least _ => body.leastLength?.map (· * least)
  | .capture body => body.leastLength?
  | .alternation branches => (lengths? branches).bind List.min?
  | .concat parts => (lengths? parts).map List.sum
where
  lengths? : List Compact → Option (List Nat)
    | [] => some []
    | part :: rest => do
      let length ← part.leastLength?
      let lengths ← lengths? rest
      some (length :: lengths)

/-- Whether an expression matches at the start of a text only. -/
def isAnchored : Compact → Bool
  | .look .textStart => true
  | .repetition body least _ => 0 < least && body.isAnchored
  | .capture body => body.isAnchored
  | .alternation branches => all branches
  | .concat parts => start parts
  | _ => false
where
  all : List Compact → Bool
    | [] => true
    | branch :: rest => branch.isAnchored && all rest
  start : List Compact → Bool
    | [] => false
    | part :: rest => part.isAnchored || part.isZeroWidth && start rest

/-- The expression of a set; a set with one member is that character. -/
def ofSet (members : CharSet) : Compact :=
  match members.ranges.toList with
  | [(first, last)] => if first = last then .literal [Char.ofNat first] else .set members
  | _ => .set members

/-- Puts a part in front of the parts of a sequence; two literals become one. -/
def prepend : Compact → List Compact → List Compact
  | .literal [], rest => rest
  | .literal text, .literal more :: rest => .literal (text ++ more) :: rest
  | part, rest => part :: rest

/-- Puts an expression in front of the parts of a sequence, the parts of a sequence one by one. -/
def prependParts : Compact → List Compact → List Compact
  | .concat parts, rest => parts.foldr prepend rest
  | part, rest => prepend part rest

/-- The expression of parts that stand alone, none, or behind one another. -/
def ofParts : List Compact → Compact
  | [] => .literal []
  | [part] => part
  | parts => .concat parts

/-- Some expressions behind one another. -/
def sequence (parts : List Compact) : Compact := ofParts (parts.foldr prependParts [])

/-- A repetition.  What takes no characters is repeated once at most. -/
def repeated (body : Compact) (least : Nat) (most : Option Nat) : Compact :=
  let (least, most) :=
    if body.isZeroWidth then (min least 1, some (min (most.getD 1) 1)) else (least, most)
  if most = some 0 then .literal []
  else if least = 1 ∧ most = some 1 then body
  else .repetition body least most

/-- The character of an expression that is one. -/
def char? : Compact → Option Char
  | .literal [c] => some c
  | _ => none

/-- The set of an expression that is one. -/
def set? : Compact → Option CharSet
  | .set members => some members
  | _ => none

/-- The parts of a sequence. -/
def parts : Compact → List Compact
  | .concat parts => parts
  | _ => []

/-- The branches of a choice; an expression that is none is its own branch. -/
def branches : Compact → List Compact
  | .alternation branches => branches
  | branch => [branch]

/-- A choice between branches of which at least one begins in its own way. -/
def oneOf (choices : List Compact) : Compact :=
  match choices.flatMap branches with
  | [] => .set .empty
  | [branch] => branch
  | choices =>
    match choices.mapM char?, choices.mapM set? with
    | some chars, _ => ofSet (CharSet.ofRanges (chars.map fun c => (c.toNat, c.toNat)))
    | none, some sets => ofSet (CharSet.ofRanges (sets.flatMap fun s => s.ranges.toList))
    | none, none => .alternation choices

/-- The parts with which two sequences both begin. -/
def sharedParts : List Compact → List Compact → List Compact
  | part :: rest, other :: others => if part.same other then part :: sharedParts rest others else []
  | _, _ => []

/-- The parts with which all of some sequences begin; there are none before a single one. -/
def commonParts : List Compact → List Compact
  | first :: second :: rest =>
    (second :: rest).foldl (fun common branch => sharedParts common branch.parts) first.parts
  | _ => []

/-- A choice.  What all branches begin with stands before it. -/
def anyOf (choices : List Compact) : Compact :=
  let choices := choices.flatMap branches
  let common := commonParts choices
  if common.isEmpty then oneOf choices
  else
    let ends := choices.map fun branch => ofParts (branch.parts.drop common.length)
    sequence (common ++ [oneOf ends])

end Compact

/-- The form of an expression from which its automata are built. -/
def compact : Regex → Compact
  | .empty => .literal []
  | .char c => .literal [c]
  | .set members => .ofSet members
  | .look condition => .look condition
  | .repetition body least most => .repeated body.compact least most
  | .capture body => .capture body.compact
  | .alternation branches => .anyOf (compacts branches)
  | .concat parts => .sequence (compacts parts)
where
  compacts : List Regex → List Compact
    | [] => []
    | part :: rest => part.compact :: compacts rest

end CodeSearch.Regex
