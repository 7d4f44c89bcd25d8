import QueryLint.Text.Basic

/-!
# One byte per character

Content is held as bytes, one for each character.  Query text is encoded with a
question mark for each character beyond ASCII, and every byte decodes to the
character with its number.
-/

namespace QueryLint

/-- The bytes of a text, one for each character. -/
def encodeBytes (text : Text) : List UInt8 :=
  text.map fun character =>
    if character.toNat < 128 then character.toNat.toUInt8 else '?'.toNat.toUInt8

/-- The text of bytes, one character for each. -/
def decodeBytes (bytes : List UInt8) : Text :=
  bytes.map fun byte => Char.ofNat byte.toNat

/-- Number of characters that the encoding replaces. -/
def replacedCount (text : Text) : Nat :=
  text.countP fun character => 128 ≤ character.toNat

end QueryLint
