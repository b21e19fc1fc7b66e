import CodeSearch.Glob.Basic

/-!
# Reading globs

`Glob.parse` reads the text of a glob.  The reader goes through the text once; for the groups that are
open it keeps the branches read so far.  `GlobError` lists what can be wrong with a glob.
-/

namespace CodeSearch

/-- Why a text is no glob. -/
inductive GlobError where
  | unclosedClass
  | invalidRange (first last : Char)
  | unopenedAlternates
  | unclosedAlternates
  | danglingEscape
  deriving DecidableEq, Repr

/-- The text of an error. -/
def GlobError.message : GlobError → String
  | unclosedClass => "unclosed character class; missing ']'"
  | invalidRange first last =>
    "invalid range; '" ++ String.singleton first ++ "' > '" ++ String.singleton last ++ "'"
  | unopenedAlternates =>
    "unopened alternate group; missing '\x7b' (maybe escape '\x7d' with '[\x7d]'?)"
  | unclosedAlternates =>
    "unclosed alternate group; missing '\x7d' (maybe escape '\x7b' with '[\x7b]'?)"
  | danglingEscape => "dangling '\\'"

namespace Glob

/-- A group of alternatives that is being read: the branches before and the current one, all in
reverse. -/
structure Level where
  /-- The finished branches, last one first. -/
  finished : List (List Token) := []
  /-- The tokens of the current branch, last one first. -/
  current : List Token := []

/-- The levels that are being read: the innermost one and those around it. -/
structure Levels where
  /-- The innermost level. -/
  inner : Level := {}
  /-- The levels around it, from the inside out. -/
  outer : List Level := []

namespace Levels

/-- Whether a group is open. -/
def inGroup (levels : Levels) : Bool := !levels.outer.isEmpty

/-- Appends a token. -/
def push (levels : Levels) (token : Token) : Levels :=
  { levels with inner := { levels.inner with current := token :: levels.inner.current } }

/-- Replaces the last token. -/
def replaceLast (levels : Levels) (f : Option Token → Token) : Levels :=
  { levels with inner :=
    { levels.inner with
      current := f levels.inner.current.head? :: levels.inner.current.drop 1 } }

/-- Opens a group. -/
def openGroup (levels : Levels) : Levels := ⟨{}, levels.inner :: levels.outer⟩

/-- Begins the next branch. -/
def nextBranch (levels : Levels) : Levels :=
  { levels with inner := ⟨levels.inner.current.reverse :: levels.inner.finished, []⟩ }

/-- The branches of the innermost level. -/
def branches (levels : Levels) : List (List Token) :=
  (levels.inner.current.reverse :: levels.inner.finished).reverse

/-- Closes the innermost group. -/
def closeGroup (levels : Levels) : Except GlobError Levels :=
  match levels.outer with
  | [] => .error .unopenedAlternates
  | around :: outer => .ok (Levels.push ⟨around, outer⟩ (.alternates levels.branches))

end Levels

/-- A class that is being read: its ranges, last one first, and whether a hyphen waits for the end of
a range. -/
structure ClassState where
  /-- The class holds what its ranges do not. -/
  negated : Bool
  /-- The ranges so far, last one first. -/
  ranges : List (Char × Char) := []
  /-- A hyphen was read that may belong to a range. -/
  inRange : Bool := false

namespace ClassState

/-- Adds a character. -/
def add (state : ClassState) (c : Char) : Except GlobError ClassState :=
  match state.inRange, state.ranges with
  | true, (first, _) :: rest =>
    if c < first then .error (.invalidRange first c)
    else .ok { state with ranges := (first, c) :: rest, inRange := false }
  | _, ranges => .ok { state with ranges := (c, c) :: ranges, inRange := false }

/-- Adds a hyphen: it stands for itself at the start and at the end of a range. -/
def hyphen (state : ClassState) : Except GlobError ClassState :=
  if state.ranges.isEmpty || state.inRange then state.add '-' else .ok { state with inRange := true }

/-- The token of a finished class; a hyphen that is still waiting stands for itself. -/
def token (state : ClassState) : Token :=
  .set state.negated (if state.inRange then ('-', '-') :: state.ranges else state.ranges).reverse

end ClassState

/-- What `**` before the rest of a text turns into: the levels after it, the character that counts as
the one before, and the rest. -/
def doubleStar (before : Option Char) (levels : Levels) (rest : List Char) : Levels :=
  let twoStars := (levels.push .zeroOrMore).push .zeroOrMore
  let atEnd := rest.head?.all (· == '/')
  if levels.inner.current.isEmpty then
    if atEnd then levels.push .recursivePrefix else twoStars
  else if before == some '/' || (levels.inGroup && (before == some ',' || before == some '\x7b')) then
    let endsGroup := levels.inGroup && (rest.head? == some ',' || rest.head? == some '\x7d')
    if atEnd || endsGroup then
      levels.replaceLast fun
        | some .recursivePrefix => .recursivePrefix
        | some .recursiveSuffix => .recursiveSuffix
        | _ => if rest.head? == some '/' then .recursiveZeroOrMore else .recursiveSuffix
    else twoStars
  else twoStars

/-- Whether `**` takes the slash after it with it. -/
def takesSlash (before : Option Char) (levels : Levels) : Bool :=
  levels.inner.current.isEmpty || before == some '/' ||
    (levels.inGroup && (before == some ',' || before == some '\x7b'))

/-- What an opening bracket is taken for. -/
inductive Brackets where
  /-- The start of a class, which has to be closed. -/
  | strict
  /-- The start of a class if that is closed, else a character that stands for itself. -/
  | lenient
  /-- A character that stands for itself. -/
  | plain
  deriving DecidableEq, Repr

/-- Whether a class is closed, its members being in order up to where it ends. -/
def ClassState.closes (state : ClassState) : List Char → Except GlobError Bool
  | [] => .ok false
  | c :: rest =>
    if c = ']' ∧ ¬ state.ranges.isEmpty then .ok true
    else
      match if c = '-' then state.hyphen else state.add c with
      | .error e => .error e
      | .ok state => state.closes rest

/-- What the brackets are taken for from an opening bracket on, given the text behind it.  Once a class
is not closed, no bracket after it opens one. -/
def Brackets.next (brackets : Brackets) (rest : List Char) : Except GlobError Brackets :=
  let members := match rest with
    | '!' :: rest | '^' :: rest => rest
    | rest => rest
  if brackets = .lenient then
    match ({ negated := false } : ClassState).closes members with
    | .error e => .error e
    | .ok closed => .ok (if closed then .lenient else .plain)
  else .ok brackets

mutual

/-- Reads tokens; `before` is the character before the rest of the text. -/
def readTokens (brackets : Brackets) (before : Option Char) (levels : Levels) :
    List Char → Except GlobError Levels
  | [] => .ok levels
  | '?' :: rest => readTokens brackets (some '?') (levels.push .any) rest
  | '*' :: '*' :: '/' :: rest =>
    if takesSlash before levels then
      readTokens brackets (some '/') (doubleStar before levels ('/' :: rest)) rest
    else
      readTokens brackets (some '/')
        ((doubleStar before levels ('/' :: rest)).push (.literal '/')) rest
  | '*' :: '*' :: rest => readTokens brackets (some '*') (doubleStar before levels rest) rest
  | '*' :: rest => readTokens brackets (some '*') (levels.push .zeroOrMore) rest
  | '[' :: rest =>
    match brackets.next rest with
    | .error e => .error e
    | .ok .plain => readTokens .plain (some '[') (levels.push (.literal '[')) rest
    | .ok brackets =>
      match rest with
      | '!' :: rest | '^' :: rest => readClass brackets { negated := true } levels rest
      | rest => readClass brackets { negated := false } levels rest
  | '\x7b' :: rest => readTokens brackets (some '\x7b') levels.openGroup rest
  | '\x7d' :: rest =>
    match levels.closeGroup with
    | .error e => .error e
    | .ok levels => readTokens brackets (some '\x7d') levels rest
  | ',' :: rest =>
    readTokens brackets (some ',')
      (if levels.inGroup then levels.nextBranch else levels.push (.literal ',')) rest
  | ['\\'] => .error .danglingEscape
  | '\\' :: c :: rest => readTokens brackets (some c) (levels.push (.literal c)) rest
  | c :: rest => readTokens brackets (some c) (levels.push (.literal c)) rest

/-- Reads the members of a class; a closing bracket at the start stands for itself. -/
def readClass (brackets : Brackets) (state : ClassState) (levels : Levels) :
    List Char → Except GlobError Levels
  | [] => .error .unclosedClass
  | c :: rest =>
    if c = ']' ∧ ¬ state.ranges.isEmpty then
      readTokens brackets (some ']') (levels.push state.token) rest
    else
      match if c = '-' then state.hyphen else state.add c with
      | .error e => .error e
      | .ok state => readClass brackets state levels rest

end

/-- Reads a glob. -/
def parse (brackets : Brackets) (text : String) : Except GlobError Glob :=
  match readTokens brackets none {} text.toList with
  | .error e => .error e
  | .ok levels =>
    if levels.inGroup then .error .unclosedAlternates
    else .ok ⟨levels.inner.current.reverse⟩

end Glob

end CodeSearch
