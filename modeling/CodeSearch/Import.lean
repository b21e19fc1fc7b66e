import CodeSearch.Text.Split
import CodeSearch.Unicode.Named

/-!
# Imports in source texts

Imports and class declarations are found by their shape, without parsing the source.  Each shape is a
recogniser that decides whether an occurrence starts at a place and how long it is; `occurrences` lists
the leftmost occurrences that do not overlap.

* an import: the word `import`, then no `;` and no quote until `from`, blanks and a quoted specifier;
* any import: the same without parentheses, or a quoted specifier right after the word `import`;
* a class: `class Derived extends Base`.

`resolveRelative?` names the file that a relative specifier means.
-/

namespace CodeSearch

open Unicode (isWordChar isWhiteSpace)

/-- Whether a specifier names a file of this tree or something outside. -/
inductive ImportKind where
  /-- The specifier starts with a dot. -/
  | relative
  /-- The specifier names a package. -/
  | bare
  deriving DecidableEq, Repr

/-- An import, by its specifier. -/
structure ImportReference where
  /-- What stands between the quotes. -/
  specifier : String
  deriving DecidableEq, Repr

namespace ImportReference

/-- The kind of an import. -/
def kind (reference : ImportReference) : ImportKind :=
  if reference.specifier.toList.head? = some '.' then .relative else .bare

/-- Whether an import names a file of this tree. -/
def isRelative (reference : ImportReference) : Bool := reference.kind == .relative

end ImportReference

namespace Import

/-- Whether a character is a quote of either kind. -/
def isQuote (c : Char) : Bool := c == '\'' || c == '"'

/-- Whether a word starts after `before`. -/
def startsWord (before : Option Char) : Bool := !before.any isWordChar

/-- Whether a word ends in front of a text. -/
def endsWord (text : List Char) : Bool := !text.head?.any isWordChar

/-- Whether the text after the word `import` leads to a specifier by the word `from`. -/
def endsWithFrom (clause : List Char) : Bool :=
  match clause.reverse.dropWhile isWhiteSpace with
  | 'm' :: 'o' :: 'r' :: 'f' :: rest => startsWord rest.head?
  | _ => false

/-- What may stand between `import` and the quote of an import with bindings. -/
def isFromClause (clause : List Char) : Bool := endsWithFrom clause

/-- What may stand between `import` and the quote of any import: no parentheses and `from` at the end,
or nothing but blanks. -/
def isAnyClause (clause : List Char) : Bool :=
  clause.all isWhiteSpace ||
    (endsWithFrom clause && !clause.any fun c => c == '(' || c == ')')

/-- The specifier that starts a text, between quotes, and its length with the quotes. -/
def quotedSpecifier? (text : List Char) : Option (List Char × Nat) :=
  match text with
  | [] => none
  | opening :: rest =>
    let specifier := rest.takeWhile fun c => !isQuote c && c != '\r' && c != '\n'
    match rest.drop specifier.length with
    | closing :: _ =>
      if isQuote opening && isQuote closing && !specifier.isEmpty then
        some (specifier, specifier.length + 2)
      else none
    | [] => none

/-- The word that starts an import. -/
def keyword : List Char := "import".toList

/-- The import that starts a text, if one does: its specifier and its length. -/
def statement? (isClause : List Char → Bool) (before : Option Char) (text : List Char) :
    Option (String × Nat) :=
  if keyword.isPrefixOf text && startsWord before then
    let rest := text.drop keyword.length
    let clause := rest.takeWhile fun c => !isQuote c && c != ';'
    if endsWord rest && isClause clause then
      (quotedSpecifier? (rest.drop clause.length)).map fun (specifier, length) =>
        (String.ofList specifier, keyword.length + clause.length + length)
    else none
  else none

/-- Whether an identifier can start with a character. -/
def startsIdentifier (c : Char) : Bool := c.isAlpha || c == '_' || c == '$'

/-- The identifier that starts a text; `isPart` says what it may consist of after its first
character. -/
def identifier? (isPart : Char → Bool) (text : List Char) : Option (List Char) :=
  match text with
  | [] => none
  | c :: rest => if startsIdentifier c then some (c :: rest.takeWhile isPart) else none

/-- The blanks that start a text, if there are any. -/
def blanks? (text : List Char) : Option (List Char) :=
  match text.takeWhile isWhiteSpace with
  | [] => none
  | found => some found

/-- A given word at the start of a text. -/
def word? (word text : List Char) : Option (List Char) :=
  if word.isPrefixOf text then some word else none

/-- The class declaration that starts a text, if one does: the class, its base and the length. -/
def classDeclaration? (before : Option Char) (text : List Char) :
    Option ((String × String) × Nat) := do
  if !startsWord before then none
  let keyword ← word? "class".toList text
  let text := text.drop keyword.length
  let gap ← blanks? text
  let text := text.drop gap.length
  let derived ← identifier? (fun c => isWordChar c || c == '$') text
  let text := text.drop derived.length
  let gapAfter ← blanks? text
  let text := text.drop gapAfter.length
  let extending ← word? "extends".toList text
  let text := text.drop extending.length
  let gapBefore ← blanks? text
  let text := text.drop gapBefore.length
  let base ← identifier? (fun c => isWordChar c || c == '$' || c == '.') text
  some ((String.ofList derived, String.ofList base),
    keyword.length + gap.length + derived.length + gapAfter.length + extending.length +
      gapBefore.length + base.length)

/-- The leftmost occurrences of a shape that do not overlap.  `recognise?` is given the character before
a place and the text from there; `skip` characters belong to the occurrence before. -/
def occurrences {α : Type} (recognise? : Option Char → List Char → Option (α × Nat)) :
    (skip : Nat) → (before : Option Char) → List Char → List α
  | _, _, [] => []
  | skip + 1, _, c :: rest => occurrences recognise? skip (some c) rest
  | 0, before, c :: rest =>
    match recognise? before (c :: rest) with
    | none => occurrences recognise? 0 (some c) rest
    | some (found, length) => found :: occurrences recognise? (length - 1) (some c) rest

end Import

/-- Every import with bindings, in the order of the text. -/
def extractImports (text : String) : List ImportReference :=
  (Import.occurrences (Import.statement? Import.isFromClause) 0 none text.toList).map .mk

/-- Every import, also those without bindings, in the order of the text. -/
def extractAllImports (text : String) : List ImportReference :=
  (Import.occurrences (Import.statement? Import.isAnyClause) 0 none text.toList).map .mk

/-- Every class that extends another one, with its base, in the order of the text. -/
def extractClasses (text : String) : List (String × String) :=
  Import.occurrences Import.classDeclaration? 0 none text.toList

/-- Follows a segment of a specifier from a directory below the root; `none` above the root. -/
def followSpecifier (directory : List String) (segment : String) : Option (List String) :=
  if segment = "" ∨ segment = "." then some directory
  else if segment = ".." then if directory.isEmpty then none else some directory.dropLast
  else some (directory ++ [segment])

/-- The path from the root that `specifier` means in the file `importer`; `none` for the root itself
and for what lies outside. -/
def resolveRelative? (importer specifier : String) : Option String :=
  let names := (Text.segments importer).filter fun s => s ≠ "" ∧ s ≠ "."
  match (Text.segments specifier).foldlM followSpecifier names.dropLast with
  | none | some [] => none
  | some target => some ("/".intercalate target)

/-- The path from the root that an import in the file `importer` means, if it is relative. -/
def ImportReference.resolve? (reference : ImportReference) (importer : String) : Option String :=
  if reference.isRelative then resolveRelative? importer reference.specifier else none

end CodeSearch
