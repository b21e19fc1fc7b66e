import CodeSearch.Text.Split

/-!
# Texts of the operating system

Names, paths and what a program reads are bytes, which need not be UTF-8.  `OsText` is a text as the
operating system has it.  Every text is one, by its UTF-8 form (`OsText.ofText`), but not the other way
round: `OsText.toText?` gives up where the bytes are not UTF-8, and `OsText.lossy` puts a replacement
character there.
-/

namespace CodeSearch

/-- The UTF-8 bytes of a text. -/
def utf8Bytes (text : String) : List UInt8 := text.toList.flatMap String.utf8EncodeChar

/-- The byte that separates segments. -/
def slash : UInt8 := 47

/-- The byte of a dot. -/
def dot : UInt8 := 46

/-- A text of the operating system: any bytes. -/
structure OsText where
  /-- The bytes. -/
  bytes : List UInt8
  deriving DecidableEq, Repr

namespace OsText

/-- A text in its UTF-8 form. -/
def ofText (text : String) : OsText := ⟨utf8Bytes text⟩

instance : Coe String OsText := ⟨ofText⟩

instance : Append OsText := ⟨fun first last => ⟨first.bytes ++ last.bytes⟩⟩

/-- Texts are ordered by their bytes. -/
instance : LT OsText := ⟨fun first last => first.bytes < last.bytes⟩

instance : DecidableLT OsText := fun first last => inferInstanceAs (Decidable (first.bytes < last.bytes))

theorem lt_trans {first second third : OsText} (h : first < second) (h' : second < third) :
    first < third :=
  List.lt_trans h h'

theorem eq_of_not_lt {first second : OsText} (h : ¬ first < second) (h' : ¬ second < first) :
    first = second :=
  congrArg mk (List.le_antisymm h' h)

/-- The number of bytes. -/
def size (text : OsText) : Nat := text.bytes.length

/-- The segments between slashes, empty ones included. -/
def segments (path : OsText) : List OsText := (Text.splitWhere (· == slash) path.bytes).map mk

/-- Some texts with slashes between them. -/
def joined : List OsText → OsText
  | [] => ""
  | [name] => name
  | name :: rest => name ++ "/" ++ joined rest

/-! ## Decoding -/

/-- The character that stands for bytes that are none. -/
def replacement : Char := '\ufffd'

/-- The beginning of a character of more than one byte. -/
structure Begun where
  /-- The bytes that are still owed. -/
  owed : Nat
  /-- The least byte that can come next. -/
  low : Nat
  /-- The greatest byte that can come next. -/
  high : Nat
  /-- The least code point that begins so. -/
  code : Nat
  /-- Below are the characters of a single byte. -/
  ge : 0x80 ≤ code

/-- What a first byte begins, if it is the first of several.  The bytes that can come next are such
that no code point is written in more bytes than it needs, and none is a surrogate or too large. -/
def Begun.ofByte? (b : Nat) : Option Begun :=
  if 0xc2 ≤ b ∧ b ≤ 0xdf then some ⟨1, 0x80, 0xbf, 0x80 + (b - 0xc2) * 0x40, Nat.le_add_right ..⟩
  else if b = 0xe0 then some ⟨2, 0xa0, 0xbf, 0x800, by decide⟩
  else if 0xe1 ≤ b ∧ b ≤ 0xef then
    some ⟨2, 0x80, if b = 0xed then 0x9f else 0xbf, 0x1000 + (b - 0xe1) * 0x1000, by omega⟩
  else if b = 0xf0 then some ⟨3, 0x90, 0xbf, 0x10000, by decide⟩
  else if 0xf1 ≤ b ∧ b ≤ 0xf4 then
    some ⟨3, 0x80, if b = 0xf4 then 0x8f else 0xbf, 0x40000 + (b - 0xf1) * 0x40000, by omega⟩
  else none

/-- A character that has begun, with one byte more. -/
def Begun.next (begun : Begun) (b : Nat) : Begun where
  owed := begun.owed - 1
  low := 0x80
  high := 0xbf
  code := begun.code + (b - begun.low) * Nat.pow 0x40 (begun.owed - 1)
  ge := Nat.le_add_right_of_le begun.ge

/-- What a byte adds to a text where no character has begun, and the character that it begins. -/
def firstByte (b : Nat) : List Char × Option Begun :=
  if b < 0x80 then ([Char.ofNat b], none)
  else match Begun.ofByte? b with
    | some begun => ([], some begun)
    | none => ([replacement], none)

/-- What a byte adds to a text, and the character that has begun with it or goes on.  A character that
is broken off counts as one. -/
def nextByte : Option Begun → Nat → List Char × Option Begun
  | none, b => firstByte b
  | some begun, b =>
    if begun.low ≤ b ∧ b ≤ begun.high then
      if begun.owed = 1 then ([Char.ofNat (begun.next b).code], none) else ([], some (begun.next b))
    else (replacement :: (firstByte b).1, (firstByte b).2)

/-- The characters of bytes that follow the beginning of a character. -/
def decodeFrom : Option Begun → List UInt8 → List Char
  | begun, [] => if begun.isSome then [replacement] else []
  | begun, b :: rest => (nextByte begun b.toNat).1 ++ decodeFrom (nextByte begun b.toNat).2 rest

/-- The text with a replacement character for every longest part that is broken. -/
def lossy (text : OsText) : String := String.ofList (decodeFrom none text.bytes)

/-- The bytes are those of a text. -/
def IsUtf8 (text : OsText) : Prop := ofText text.lossy = text

instance (text : OsText) : Decidable text.IsUtf8 := inferInstanceAs (Decidable (_ = _))

/-- The text that has these bytes. -/
def toText? (text : OsText) : Option String := if text.IsUtf8 then some text.lossy else none

end OsText

end CodeSearch
