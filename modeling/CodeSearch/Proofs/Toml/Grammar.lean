import CodeSearch.Toml.Basic
import Mathlib.Data.List.Forall2
import Mathlib.Data.Nat.Digits.Defs

/-!
# How TOML documents are written

`WritesDocument statements text` says that a text is a document of some statements: headers of tables
and values for keys, each key of one part.  The text may hold blanks, blank lines and comments wherever
TOML lets it, its lines may end in either way, keys may be bare or quoted, and every character of a
basic string may be written in any of the ways that stand for it.  Values are basic strings, lists of
them, and switches.  There is no text that could not be written (`exists_writesString`).
-/

namespace CodeSearch.Toml

/-! ## Between the tokens -/

/-- Some characters are blank within a line. -/
def AreBlanks (gap : List Char) : Prop := ∀ c ∈ gap, c = ' ' ∨ c = '\t'

theorem areBlanks_nil : AreBlanks [] := List.forall_mem_nil _

/-- A character may stand in comments and strings: it is a tab or no control character. -/
def IsTextChar (c : Char) : Prop := c = '\t' ∨ ' ' ≤ c ∧ c ≠ '\x7f'

/-- A comment, or nothing. -/
inductive IsComment : List Char → Prop where
  | none : IsComment []
  | text {body : List Char} (h : ∀ c ∈ body, IsTextChar c) : IsComment ('#' :: body)

/-- The end of a line. -/
inductive IsNewline : List Char → Prop where
  | lineFeed : IsNewline ['\n']
  | carriageReturn : IsNewline ['\r', '\n']

/-- Blanks and ends of lines, comments included. -/
inductive IsGap : List Char → Prop where
  | nil : IsGap []
  | blank {c : Char} {rest : List Char} (h : c = ' ' ∨ c = '\t') (hrest : IsGap rest) :
      IsGap (c :: rest)
  | line {comment newline rest : List Char} (hcomment : IsComment comment)
      (hnewline : IsNewline newline) (hrest : IsGap rest) : IsGap (comment ++ (newline ++ rest))

/-! ## Strings -/

/-- The characters with an escape of one character, behind the character that stands for them. -/
def shortEscapes : List (Char × Char) :=
  [('b', '\x08'), ('t', '\t'), ('n', '\n'), ('f', '\x0c'), ('r', '\r'), ('"', '"'), ('\\', '\\')]

/-- A hexadecimal digit, small or capital, and its value. -/
inductive IsHexDigit : Char → Nat → Prop where
  | small {n : Nat} (h : n < 16) : IsHexDigit (Nat.digitChar n) n
  | capital {n : Nat} (h : n < 16) : IsHexDigit (Nat.digitChar n).toUpper n

/-- The mark of an escape by code, and the number of its digits. -/
inductive IsCodeMark : Char → Nat → Prop where
  | short : IsCodeMark 'u' 4
  | long : IsCodeMark 'U' 8

/-- A character as it may be written in a basic string: as itself, with a short escape, or by its
code. -/
inductive SpellsChar : Char → List Char → Prop where
  | plain {c : Char} (h : IsTextChar c) (hquote : c ≠ '"') (hslash : c ≠ '\\') : SpellsChar c [c]
  | short {c mark : Char} (h : (mark, c) ∈ shortEscapes) : SpellsChar c ['\\', mark]
  | code {c mark : Char} {digits : List Char} {values : List Nat}
      (hmark : IsCodeMark mark digits.length) (hdigits : List.Forall₂ IsHexDigit digits values)
      (hvalue : Nat.ofDigits 16 values.reverse = c.toNat) : SpellsChar c ('\\' :: mark :: digits)

/-- The characters of a text one after the other, each as it may be written. -/
inductive SpellsText : List Char → List Char → Prop where
  | nil : SpellsText [] []
  | cons {c : Char} {text spelling others : List Char} (h : SpellsChar c spelling)
      (hrest : SpellsText text others) : SpellsText (c :: text) (spelling ++ others)

/-- A text as a basic string. -/
inductive WritesString (text : String) : List Char → Prop where
  | quoted {body : List Char} (h : SpellsText text.toList body) :
      WritesString text ('"' :: (body ++ ['"']))

/-! ## Keys, values and statements -/

/-- A key of one part. -/
inductive WritesKey (name : String) : List Char → Prop where
  | bare (hne : name ≠ "") (h : ∀ c ∈ name.toList, c.isAlphanum = true ∨ c = '_' ∨ c = '-') :
      WritesKey name name.toList
  | basic {written : List Char} (h : WritesString name written) : WritesKey name written
  | literal (h : ∀ c ∈ name.toList, IsTextChar c ∧ c ≠ '\'') :
      WritesKey name ('\'' :: (name.toList ++ ['\'']))

/-- The items of a list of texts with its closing bracket; a comma may follow the last one. -/
inductive WritesItems : List String → List Char → Prop where
  | nil {gap : List Char} (hgap : IsGap gap) : WritesItems [] (gap ++ [']'])
  | last {text : String} {before item after : List Char} (hbefore : IsGap before)
      (hitem : WritesString text item) (hafter : IsGap after) :
      WritesItems [text] (before ++ (item ++ (after ++ [']'])))
  | cons {text : String} {texts : List String} {before item after rest : List Char}
      (hbefore : IsGap before) (hitem : WritesString text item) (hafter : IsGap after)
      (hrest : WritesItems texts rest) :
      WritesItems (text :: texts) (before ++ (item ++ (after ++ ',' :: rest)))

/-- A list of texts as a value. -/
def ofTexts (texts : List String) : Toml := array (texts.map string)

/-- A text, a switch or a list of texts as a value. -/
inductive WritesValue : Toml → List Char → Prop where
  | string {text : String} {written : List Char} (h : WritesString text written) :
      WritesValue (.string text) written
  | yes : WritesValue (.boolean true) ['t', 'r', 'u', 'e']
  | no : WritesValue (.boolean false) ['f', 'a', 'l', 's', 'e']
  | texts {texts : List String} {items : List Char} (h : WritesItems texts items) :
      WritesValue (ofTexts texts) ('[' :: items)

/-- The header of a table, or a value for a key. -/
inductive WritesStatement : Statement → List Char → Prop where
  | header {name : String} {before key after : List Char} (hbefore : AreBlanks before)
      (hkey : WritesKey name key) (hafter : AreBlanks after) :
      WritesStatement (.header [name]) ('[' :: (before ++ (key ++ (after ++ [']']))))
  | assign {name : String} {value : Toml} {key before after written : List Char}
      (hkey : WritesKey name key) (hbefore : AreBlanks before) (hafter : AreBlanks after)
      (hvalue : WritesValue value written) :
      WritesStatement (.assign [name] value) (key ++ (before ++ '=' :: (after ++ written)))

/-! ## Documents -/

/-- Statements on lines of their own.  The last line need not be ended. -/
inductive WritesDocument : List Statement → List Char → Prop where
  | nil {gap comment : List Char} (hgap : IsGap gap) (hcomment : IsComment comment) :
      WritesDocument [] (gap ++ comment)
  | last {statement : Statement} {gap written blanks comment : List Char} (hgap : IsGap gap)
      (hstatement : WritesStatement statement written) (hblanks : AreBlanks blanks)
      (hcomment : IsComment comment) :
      WritesDocument [statement] (gap ++ (written ++ (blanks ++ comment)))
  | cons {statement : Statement} {statements : List Statement}
      {gap written blanks comment newline rest : List Char} (hgap : IsGap gap)
      (hstatement : WritesStatement statement written) (hblanks : AreBlanks blanks)
      (hcomment : IsComment comment) (hnewline : IsNewline newline)
      (hrest : WritesDocument statements rest) :
      WritesDocument (statement :: statements)
        (gap ++ (written ++ (blanks ++ (comment ++ (newline ++ rest)))))

/-! ## What can be written -/

/-- There are codes of any number of digits, for all numbers below the power of sixteen. -/
theorem exists_hexDigits {count n : Nat} (h : n < 16 ^ count) :
    ∃ digits values, digits.length = count ∧ List.Forall₂ IsHexDigit digits values ∧
      Nat.ofDigits 16 values.reverse = n := by
  induction count generalizing n with
  | zero =>
    obtain rfl : n = 0 := by simpa using h
    exact ⟨[], [], rfl, .nil, rfl⟩
  | succ count ih =>
    have hfewer : n / 16 < 16 ^ count := by omega
    obtain ⟨digits, values, rfl, hdigits, hvalue⟩ := ih hfewer
    have hlast : IsHexDigit (Nat.digitChar (n % 16)) (n % 16) := .small (Nat.mod_lt n (by decide))
    refine ⟨digits ++ [Nat.digitChar (n % 16)], values ++ [n % 16], by simp,
      List.rel_append hdigits (.cons hlast .nil), ?_⟩
    rw [List.reverse_append, List.reverse_singleton, List.singleton_append, Nat.ofDigits_cons, hvalue]
    exact Nat.mod_add_div n 16

theorem exists_spellsChar (c : Char) : ∃ spelling, SpellsChar c spelling := by
  have hcode : c.toNat < 16 ^ 8 := by
    have hvalid : c.toNat.isValidChar := c.valid
    rw [Nat.isValidChar] at hvalid
    omega
  obtain ⟨digits, values, hlength, hdigits, hvalue⟩ := exists_hexDigits hcode
  have hmark : IsCodeMark 'U' digits.length := by rw [hlength]; exact .long
  exact ⟨_, .code hmark hdigits hvalue⟩

/-- Every text can be written as a basic string. -/
theorem exists_writesString (text : String) : ∃ written, WritesString text written := by
  have hbody : ∀ characters, ∃ body, SpellsText characters body := by
    intro characters
    induction characters with
    | nil => exact ⟨[], .nil⟩
    | cons c characters ih =>
      obtain ⟨spelling, hspelling⟩ := exists_spellsChar c
      obtain ⟨body, hbody⟩ := ih
      exact ⟨spelling ++ body, .cons hspelling hbody⟩
  obtain ⟨body, hbody⟩ := hbody text.toList
  exact ⟨_, .quoted hbody⟩

/-- Characters that need no escape may stand for themselves. -/
theorem spellsText_self {text : List Char} (h : ∀ c ∈ text, IsTextChar c ∧ c ≠ '"' ∧ c ≠ '\\') :
    SpellsText text text := by
  induction text with
  | nil => exact .nil
  | cons c text ih =>
    obtain ⟨hc, htext⟩ := List.forall_mem_cons.1 h
    exact .cons (.plain hc.1 hc.2.1 hc.2.2) (ih htext)

theorem exists_writesValue_string (text : String) :
    ∃ written, WritesValue (.string text) written := by
  obtain ⟨written, h⟩ := exists_writesString text
  exact ⟨written, .string h⟩

theorem exists_writesValue_boolean (value : Bool) :
    ∃ written, WritesValue (.boolean value) written := by
  cases value with
  | false => exact ⟨_, .no⟩
  | true => exact ⟨_, .yes⟩

theorem exists_writesValue_ofTexts (texts : List String) :
    ∃ written, WritesValue (ofTexts texts) written := by
  have hitems : ∃ items, WritesItems texts items := by
    induction texts with
    | nil => exact ⟨_, .nil .nil⟩
    | cons text texts ih =>
      obtain ⟨item, hitem⟩ := exists_writesString text
      obtain ⟨rest, hrest⟩ := ih
      exact ⟨_, .cons .nil hitem .nil hrest⟩
  obtain ⟨items, hitems⟩ := hitems
  exact ⟨_, .texts hitems⟩

/-- A document can be written if its statements can. -/
theorem exists_writesDocument {statements : List Statement}
    (h : ∀ statement ∈ statements, ∃ written, WritesStatement statement written) :
    ∃ text, WritesDocument statements text := by
  induction statements with
  | nil => exact ⟨_, .nil .nil .none⟩
  | cons statement statements ih =>
    obtain ⟨⟨written, hwritten⟩, hstatements⟩ := List.forall_mem_cons.1 h
    obtain ⟨rest, hrest⟩ := ih hstatements
    exact ⟨_, .cons .nil hwritten areBlanks_nil .none .lineFeed hrest⟩

end CodeSearch.Toml
