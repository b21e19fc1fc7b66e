/-!
# Sets of characters as ranges of code points

A `CharSet` is a sorted array of disjoint code point ranges; membership is a binary search.  Union,
complement and the operations built on them keep the array sorted.  `CharSet.decode` reads the compact
text form in which the property tables of this folder are written.
-/

namespace CodeSearch.Unicode

/-- A set of code points: inclusive ranges, increasing and not touching one another. -/
structure CharSet where
  /-- The ranges, first and last code point. -/
  ranges : Array (Nat × Nat)
  deriving DecidableEq, Repr

namespace CharSet

/-- The greatest code point. -/
def lastCodePoint : Nat := 0x10FFFF

/-- The set without members. -/
def empty : CharSet := ⟨#[]⟩

/-- Whether one of the ranges from index `low` up to `high` holds `n`; each of the `steps` halves the
part that is searched. -/
def search (ranges : Array (Nat × Nat)) (n : Nat) : (steps low high : Nat) → Bool
  | 0, _, _ => false
  | steps + 1, low, high =>
    if low < high then
      let middle := (low + high) / 2
      match ranges[middle]? with
      | none => false
      | some (first, last) =>
        if n < first then search ranges n steps low middle
        else if last < n then search ranges n steps (middle + 1) high
        else true
    else false

/-- Membership of a code point. -/
def has (s : CharSet) (n : Nat) : Bool := search s.ranges n s.ranges.size 0 s.ranges.size

/-- Membership of a character. -/
def contains (s : CharSet) (c : Char) : Bool := s.has c.toNat

/-- Joins ranges sorted by their first code point wherever they meet or overlap. -/
def joined (sorted : List (Nat × Nat)) : CharSet :=
  ⟨sorted.foldl (fun done range =>
    match done.back? with
    | some (first, last) =>
      if range.1 ≤ last + 1 then done.pop.push (first, max last range.2) else done.push range
    | none => done.push range) #[]⟩

/-- The set of all code points in some ranges, given in any order. -/
def ofRanges (ranges : List (Nat × Nat)) : CharSet :=
  joined ((ranges.filter fun r => r.1 ≤ r.2).mergeSort fun a b => a.1 ≤ b.1)

/-- The set of the characters of a range. -/
def ofRange (first last : Char) : CharSet := ofRanges [(first.toNat, last.toNat)]

/-- The set of the characters of a text. -/
def ofString (text : String) : CharSet := ofRanges (text.toList.map fun c => (c.toNat, c.toNat))

/-- All code points of either set. -/
def union (s t : CharSet) : CharSet := ofRanges (s.ranges.toList ++ t.ranges.toList)

/-- The gaps before, between and after sorted ranges, from the code point `next` on. -/
def gaps (next : Nat) : List (Nat × Nat) → List (Nat × Nat)
  | [] => if next ≤ lastCodePoint then [(next, lastCodePoint)] else []
  | (first, last) :: rest =>
    if next < first then (next, first - 1) :: gaps (last + 1) rest else gaps (last + 1) rest

/-- All code points outside the set. -/
def compl (s : CharSet) : CharSet := ⟨(gaps 0 s.ranges.toList).toArray⟩

/-- All code points of both sets. -/
def inter (s t : CharSet) : CharSet := (s.compl.union t.compl).compl

/-- All code points of the first set that are not in the second. -/
def diff (s t : CharSet) : CharSet := s.inter t.compl

/-- All code points of exactly one of the sets. -/
def symmDiff (s t : CharSet) : CharSet := (s.diff t).union (t.diff s)

/-- The numbers of a table text: base 26, most significant digit first, the last digit in upper case
and the others in lower case.  Blanks and ends of lines do not count. -/
def numbers (text : String) : List Nat :=
  (text.toList.foldl (fun (found, n) c =>
    if c.isUpper then (found.push (n * 26 + (c.toNat - 'A'.toNat)), 0)
    else if c.isLower then (found, n * 26 + (c.toNat - 'a'.toNat))
    else (found, n)) ((#[] : Array Nat), 0)).1.toList

/-- The ranges of a table: each is the gap after the range before it and its length less one. -/
def rangesOf (next : Nat) : List Nat → List (Nat × Nat)
  | gap :: extra :: rest => (next + gap, next + gap + extra) :: rangesOf (next + gap + extra + 1) rest
  | _ => []

/-- The set that a table text stands for. -/
def decode (text : String) : CharSet := ⟨(rangesOf 0 (numbers text)).toArray⟩

end CharSet

end CodeSearch.Unicode
