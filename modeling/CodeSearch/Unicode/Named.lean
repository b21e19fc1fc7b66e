import CodeSearch.Unicode.Age
import CodeSearch.Unicode.Break
import CodeSearch.Unicode.CaseFolding
import CodeSearch.Unicode.Category
import CodeSearch.Unicode.Property
import CodeSearch.Unicode.Script

/-!
# Character sets by name

Looks up the sets that the tables of this folder describe.  Names are compared loosely: case, spaces,
hyphens and underscores do not count, and neither does a leading `is`.
-/

namespace CodeSearch.Unicode

/-- The loose form of a name, in which names are compared. -/
def looseName (name : String) : String :=
  let ascii := name.toList.map Char.toLower
  let (isPrefixed, rest) := match ascii with
    | 'i' :: 's' :: rest => (true, rest)
    | all => (false, all)
  let kept := rest.filter fun c => c.toNat < 128 && c != ' ' && c != '_' && c != '-'
  if isPrefixed && kept == ['c'] then "isc" else String.ofList kept

/-- The row of a table that has `name` among its names. -/
def row? (table : List (String × String)) (name : String) : Option CharSet :=
  (table.find? fun (names, _) => (names.splitOn " ").contains name).map fun (_, text) =>
    CharSet.decode text

/-- The union of some rows of a table. -/
def rows (table : List (String × String)) (names : List String) : CharSet :=
  CharSet.ofRanges ((names.filterMap (row? table)).flatMap fun s => s.ranges.toList)

/-- The general categories that are groups of others, by their loose names. -/
def categoryGroups : List (List String × List String) := [
  (["l", "letter"], ["lu", "ll", "lt", "lm", "lo"]),
  (["lc", "casedletter"], ["lu", "ll", "lt"]),
  (["m", "mark", "combiningmark"], ["mn", "mc", "me"]),
  (["n", "number"], ["nd", "nl", "no"]),
  (["p", "punctuation", "punct"], ["pc", "pd", "ps", "pe", "pi", "pf", "po"]),
  (["s", "symbol"], ["sm", "sc", "sk", "so"]),
  (["z", "separator"], ["zs", "zl", "zp"]),
  (["c", "other"], ["cc", "cf", "cn", "co"])]

/-- The set of all code points. -/
def CharSet.all : CharSet := CharSet.ofRanges [(0, CharSet.lastCodePoint)]

/-- A general category by its loose name. -/
def category? (name : String) : Option CharSet :=
  if name = "any" then some .all
  else if name = "ascii" then some (CharSet.ofRanges [(0, 127)])
  else if name = "assigned" then (row? categories "cn").map CharSet.compl
  else match categoryGroups.find? fun (names, _) => names.contains name with
    | some (_, members) => some (rows categories members)
    | none => row? categories name

/-- All code points that a version of the repertoire has, by the loose name of the version. -/
def age? (name : String) : Option CharSet :=
  match ages.findIdx? fun (names, _) => (names.splitOn " ").contains name with
  | none => none
  | some last =>
    some (CharSet.ofRanges ((ages.take (last + 1)).flatMap fun (_, text) =>
      (CharSet.decode text).ranges.toList))

/-- A row of a break class table; what no row names is the class "other". -/
def breakClass? (table : List (String × String)) (name : String) : Option CharSet :=
  if name = "xx" ∨ name = "other" then
    some (CharSet.ofRanges (table.flatMap fun (_, text) => (CharSet.decode text).ranges.toList)).compl
  else row? table name

/-- The set that a single name stands for: a binary property, a general category or a script.  The
names `cf`, `sc` and `lc` are categories. -/
def set? (name : String) : Option CharSet :=
  let name := looseName name
  let property := if name ∈ ["cf", "sc", "lc"] then none else row? properties name
  property <|> category? name <|> row? scripts name

/-- The set of the code points for which a property has a value. -/
def valueSet? (property value : String) : Option CharSet :=
  let property := looseName property
  let value := looseName value
  if property ∈ ["gc", "generalcategory"] then category? value
  else if property ∈ ["sc", "script"] then row? scripts value
  else if property ∈ ["scx", "scriptextensions"] then row? scriptExtensions value
  else if property = "age" then age? value
  else if property ∈ ["gcb", "graphemeclusterbreak"] then breakClass? graphemeBreaks value
  else if property ∈ ["wb", "wordbreak"] then breakClass? wordBreaks value
  else if property ∈ ["sb", "sentencebreak"] then breakClass? sentenceBreaks value
  else none

/-- The decimal digits of all scripts. -/
def decimalDigits : CharSet := rows categories ["nd"]

/-- The characters of words beyond ASCII and within it: letters and other alphabetic characters,
marks, decimal digits, connectors and joiners. -/
def wordCharacters : CharSet :=
  (rows properties ["alphabetic", "joincontrol"]).union (rows categories ["mn", "mc", "me", "nd", "pc"])

/-- The alphabetic characters. -/
def alphabetic : CharSet := rows properties ["alphabetic"]

/-- The characters with a numeric category. -/
def numeric : CharSet := rows categories ["nd", "nl", "no"]

/-- Whether a character belongs to words. -/
def isWordChar (c : Char) : Bool :=
  if c.toNat < 128 then c.isAlphanum || c == '_' else wordCharacters.contains c

/-- The white space characters. -/
def whiteSpace : CharSet :=
  ⟨#[(0x09, 0x0D), (0x20, 0x20), (0x85, 0x85), (0xA0, 0xA0), (0x1680, 0x1680), (0x2000, 0x200A),
    (0x2028, 0x2029), (0x202F, 0x202F), (0x205F, 0x205F), (0x3000, 0x3000)]⟩

/-- Whether a character is white space. -/
def isWhiteSpace (c : Char) : Bool := whiteSpace.contains c

/-- The characters that have no visible form of their own: unassigned, private, control and format
characters and separators. -/
def invisible : CharSet := rows categories ["cc", "cf", "cn", "co", "zl", "zp", "zs"]

/-- The characters that extend the one before them. -/
def graphemeExtenders : CharSet := rows properties ["graphemeextend"]

end CodeSearch.Unicode
