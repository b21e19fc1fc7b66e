import CodeSearch.Regex.Compact

/-!
# The size of regular expressions

A regular expression is only used if the automata that search a text with it, forwards and backwards,
fit into `sizeLimit` bytes.  They are built from the compact form of the expression;
`Regex.Compact.size` is the size of the larger one.

Both automata read the UTF-8 form of a text.  A set of characters becomes a tree of byte ranges; the
forward automaton shares its common endings, the backward one its common beginnings.
-/

namespace CodeSearch.Regex

open Unicode (CharSet)

/-- A range of bytes. -/
abbrev ByteRange := Nat × Nat

/-- The UTF-8 bytes of a code point, given how many there are. -/
def utf8Bytes (count code : Nat) : List Nat :=
  match count with
  | 1 => [code]
  | 2 => [0xC0 + code / 64, 0x80 + code % 64]
  | 3 => [0xE0 + code / 4096, 0x80 + code / 64 % 64, 0x80 + code % 64]
  | _ => [0xF0 + code / 262144, 0x80 + code / 4096 % 64, 0x80 + code / 64 % 64, 0x80 + code % 64]

/-- How many bytes a code point takes. -/
def utf8Count (code : Nat) : Nat :=
  if code < 0x80 then 1 else if code < 0x800 then 2 else if code < 0x10000 then 3 else 4

/-- Cuts a range of code points so that the last `6 * level` bits of each part run through all their
values or belong to a single block. -/
def alignedRanges : (level : Nat) → (first last : Nat) → List (Nat × Nat)
  | 0, first, last => [(first, last)]
  | level + 1, first, last =>
    let block := Nat.pow 64 (level + 1)
    if first / block = last / block then alignedRanges level first last
    else
      let head := if first % block = 0 then [] else
        alignedRanges level first ((first / block + 1) * block - 1)
      let tail := if last % block = block - 1 then [] else
        alignedRanges level (last / block * block) last
      let firstBlock := if first % block = 0 then first / block else first / block + 1
      let endBlock := if last % block = block - 1 then last / block + 1 else last / block
      head ++ (if firstBlock < endBlock then [(firstBlock * block, endBlock * block - 1)] else []) ++ tail

/-- The byte ranges, one for each byte, of the parts of a range of code points. -/
def byteSequences (first last : Nat) : List (List ByteRange) :=
  let parts := [(0, 0x7F), (0x80, 0x7FF), (0x800, 0xD7FF), (0xE000, 0xFFFF), (0x10000, 0x10FFFF)]
  parts.flatMap fun (low, high) =>
    let first := max first low
    let last := min last high
    if first ≤ last then
      (alignedRanges (utf8Count low - 1) first last).map fun (a, b) =>
        (utf8Bytes (utf8Count low) a).zip (utf8Bytes (utf8Count low) b)
    else []

/-- The sequences that start with the same range, without that range. -/
def byFirst (sequences : List (List ByteRange)) : List (ByteRange × List (List ByteRange)) :=
  (sequences.splitBy fun a b => a.head? == b.head?).filterMap fun group =>
    (group.head?.bind List.head?).map fun range => (range, group.map (List.drop 1))

/-- A tree of byte ranges. -/
inductive ByteTree where
  | leaf
  | node (children : List (ByteRange × ByteTree))

/-- Whether two trees are the same. -/
def ByteTree.same : ByteTree → ByteTree → Bool
  | .leaf, .leaf => true
  | .node children, .node others => go children others
  | _, _ => false
where
  go : List (ByteRange × ByteTree) → List (ByteRange × ByteTree) → Bool
    | [], [] => true
    | (range, child) :: rest, (other, otherChild) :: others =>
      range == other && child.same otherChild && go rest others
    | _, _ => false

instance : BEq ByteTree := ⟨ByteTree.same⟩

/-- The tree of some sequences that are at most `height` long. -/
def ByteTree.ofSequences : (height : Nat) → List (List ByteRange) → ByteTree
  | 0, _ => .leaf
  | height + 1, sequences =>
    if sequences.all List.isEmpty then .leaf
    else .node ((byFirst sequences).map fun (range, rest) => (range, ofSequences height rest))

/-- The nodes of a tree. -/
def ByteTree.nodes : ByteTree → List ByteTree
  | .leaf => []
  | .node children => .node children :: go children
where
  go : List (ByteRange × ByteTree) → List ByteTree
    | [] => []
    | (_, child) :: rest => child.nodes ++ go rest

/-- The children of a node. -/
def ByteTree.children : ByteTree → List (ByteRange × ByteTree)
  | .leaf => []
  | .node children => children

/-- The bytes that a state takes. -/
def stateSize : Nat := 32

/-- The bytes that a labelled step out of a state takes. -/
def stepSize : Nat := 8

/-- The bytes that a choice between states takes for each of them. -/
def choiceSize : Nat := 4

/-- The greatest size of an automaton. -/
def sizeLimit : Nat := 10 * Nat.pow 2 20

/-- Which way an automaton reads a text. -/
inductive Direction where
  | forward
  | backward
  deriving DecidableEq

/-- The size of the automaton of a set. -/
def setSize (direction : Direction) (members : CharSet) : Nat :=
  let ranges := members.ranges.toList
  if ranges.all fun r => r.2 < 128 then 2 * stateSize + ranges.length * stepSize
  else
    let sequences := ranges.flatMap fun r => byteSequences r.1 r.2
    let nodes := (ByteTree.ofSequences 4 sequences).nodes
    match direction with
    | .forward =>
      let distinct := nodes.eraseDups
      (distinct.length + 1) * stateSize + (distinct.flatMap ByteTree.children).length * stepSize
    | .backward =>
      ((nodes.flatMap ByteTree.children).length + 2) * stateSize + sequences.length * choiceSize

/-! ## Choices between words -/

/-- Words as a tree with a byte at each edge.  Where a word ends, the edges that come later are kept apart
from the ones before: `ends` counts the words that end, and each edge has the count at its time. -/
inductive Trie where
  | node (ends : Nat) (edges : List ((Nat × UInt8) × Trie))

namespace Trie

/-- The tree without words. -/
def empty : Trie := .node 0 []

/-- The edges out of the root. -/
def edges : Trie → List ((Nat × UInt8) × Trie)
  | .node _ edges => edges

/-- A tree with one more word.  A word that ends twice where nothing goes on counts once. -/
def insert : List UInt8 → Trie → Trie
  | [], .node ends edges => .node (if edges.isEmpty then 1 else ends + 1) edges
  | byte :: word, .node ends edges =>
    let child := (edges.lookup (ends, byte)).getD empty
    .node ends (((ends, byte), insert word child) :: edges.filter (·.1 != (ends, byte)))

/-- The tree of some words. -/
def ofWords (words : List (List UInt8)) : Trie := words.foldl (fun trie word => trie.insert word) empty

/-- The bytes that the edges of one kind out of a state take. -/
def groupSize (count : Nat) : Nat :=
  if count = 0 then 0
  else choiceSize + stateSize + if count = 1 then 0 else count * stepSize

/-- The size of the automaton of a tree, without the state at its end. -/
def size : Trie → Nat
  | .node ends edges =>
    if edges.isEmpty then 0
    else
      let group (i : Nat) : Nat := groupSize (edges.countP fun edge => edge.1.1 == i)
      stateSize + ends * choiceSize + ((List.range (ends + 1)).map group).sum + sizes edges
where
  sizes : List ((Nat × UInt8) × Trie) → Nat
    | [] => 0
    | (_, child) :: rest => child.size + sizes rest

end Trie

/-! ## Expressions -/

namespace Compact

/-- The bytes of a literal, in the order in which they are read; none of what is no literal. -/
def word? (direction : Direction) : Compact → Option (List UInt8)
  | .literal [] => none
  | .literal text =>
    let bytes := text.flatMap String.utf8EncodeChar
    some (match direction with
      | .forward => bytes
      | .backward => bytes.reverse)
  | _ => none

/-- The size of the automaton of a repetition, given the size of one turn and whether each turn takes
characters. -/
def repetitionSize (one : Nat) (takes : Bool) (least : Nat) (most : Option Nat) : Nat :=
  let choice := stateSize + 2 * choiceSize
  match least, most with
  | 0, none => one + choice + if takes then 0 else choice + stateSize
  | least + 1, none => (least + 1) * one + choice
  | least, some most =>
    if least = most then least * one
    else
      (if least = 0 ∧ most ≠ 1 then stateSize else 0) + stateSize +
        least * one + (most - least) * (one + choice)

/-- The size of the automaton of an expression. -/
def automatonSize (direction : Direction) : Compact → Nat
  | .literal [] => stateSize
  | .literal text => (text.flatMap String.utf8EncodeChar).length * stateSize
  | .set members => setSize direction members
  | .look _ => stateSize
  | .repetition body least most =>
    repetitionSize (body.automatonSize direction) (body.leastLength?.any (0 < ·)) least most
  | .capture body =>
    body.automatonSize direction + if direction = .forward then 2 * stateSize else 0
  | .alternation branches =>
    match branches.mapM (word? direction) with
    | some words => stateSize + (Trie.ofWords words).size
    | none => 2 * stateSize + choices branches
  | .concat parts => total parts
where
  choices : List Compact → Nat
    | [] => 0
    | branch :: rest => branch.automatonSize direction + choiceSize + choices rest
  total : List Compact → Nat
    | [] => 0
    | part :: rest => part.automatonSize direction + total rest

/-- The bytes of what goes before and after the automaton of an expression: the state of a match, the ends
of the whole match and, unless a match starts with the text, a loop over what comes before it. -/
def frameSize (expression : Compact) : Direction → Nat
  | .forward =>
    3 * stateSize + if expression.isAnchored then stateSize
      else 3 * stateSize + stepSize + 2 * choiceSize
  | .backward => 2 * stateSize

/-- The size of the larger automaton of an expression. -/
def size (expression : Compact) : Nat :=
  max (expression.automatonSize .forward + expression.frameSize .forward)
    (expression.automatonSize .backward + expression.frameSize .backward)

/-- Whether an expression is a choice between very many words, for which no automaton is built. -/
def isWordList : Compact → Bool
  | .alternation branches =>
    3000 ≤ branches.length && branches.all fun branch => (branch.word? .forward).isSome
  | _ => false

end Compact

/-- Whether an expression is small enough to be used. -/
def isUsable (regex : Regex) : Bool :=
  regex.compact.isWordList || regex.compact.size ≤ sizeLimit


end CodeSearch.Regex
