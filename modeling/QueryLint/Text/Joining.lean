import QueryLint.Text.CharWidth

/-!
# Letters that join

In some scripts a letter makes one shape with a letter or sign in front of it,
often at the word of a joiner between the two.  The shape takes fewer columns
than its parts do one by one.
-/

namespace QueryLint.Text

/-- The joiner of characters that make one shape. -/
def joiner : Char := '\u200d'

/-- Code points of Arabic letters with the shape of an alef. -/
def alefRanges : List (Nat × Nat) :=
  [
    (1570, 1571), (1573, 1573), (1575, 1575), (1649, 1651), (1653, 1653),
    (1907, 1908), (2160, 2178)]

/-- Code points of Arabic letters with the shape of a lam. -/
def lamRanges : List (Nat × Nat) :=
  [
    (1604, 1604), (1717, 1720), (1898, 1898), (2214, 2214), (2247, 2247)]

/-- Code points of Khmer letters that can stand below another letter. -/
def subscriptRanges : List (Nat × Nat) :=
  [
    (6016, 6018), (6020, 6023), (6025, 6028), (6030, 6035), (6037, 6040),
    (6043, 6045), (6048, 6048), (6050, 6050), (6055, 6055), (6059, 6060),
    (6063, 6063)]

/-- Code points of characters that take no column and still keep Arabic letters
apart. -/
def separatingRanges : List (Nat × Nat) :=
  [
    (1541, 1541), (2192, 2193), (2274, 2274), (2494, 2494), (2519, 2519),
    (2878, 2878), (2903, 2903), (3006, 3006), (3031, 3031), (3264, 3264),
    (3266, 3266), (3271, 3272), (3274, 3275), (3285, 3286), (3390, 3390),
    (3406, 3406), (3415, 3415), (3535, 3535), (3551, 3551), (4448, 4607),
    (6158, 6158), (6965, 6965), (6971, 6971), (6973, 6973), (6979, 6979),
    (8204, 8205), (8293, 8297), (12334, 12335), (12644, 12644), (43258, 43258),
    (55216, 55238), (55243, 55291), (65438, 65440), (65520, 65528),
    (70082, 70083), (70462, 70462), (70487, 70487), (70832, 70832),
    (70845, 70845), (71087, 71087), (71984, 71984), (71999, 71999),
    (72001, 72001), (72250, 72250), (72324, 72329), (73030, 73030),
    (73474, 73474), (119141, 119141), (119150, 119154), (917504, 917504),
    (917506, 917535), (917632, 917759), (918000, 921599)]

/-- A mark that keeps no Arabic letters apart. -/
def isTransparentMark (character : Char) : Bool :=
  charWidth character == 0 && !inRanges separatingRanges character.toNat

/-- A character that may stand inside a shape: a joiner, a selector or a vowel
sign that does not show. -/
def isInsideShape (character : Char) : Bool :=
  inRanges [(0x34f, 0x34f), (0x17b4, 0x17b5), (0x180b, 0x180d),
    (0x180f, 0x180f), (0x200d, 0x200d), (0xfe00, 0xfe0f),
    (0xe0100, 0xe01ef)] character.toNat

def isTifinaghConsonant (character : Char) : Bool :=
  inRanges [(0x2d31, 0x2d65), (0x2d6f, 0x2d6f)] character.toNat

/-- The letters that join, and the parts of a shape that go on joining. -/
inductive JoiningLetter where
  | alef
  | lamed
  | bugineseYa
  | bugineseVowelYa
  | tifinagh
  | tifinaghPair
  | lisuTone
  | turkicI
  | subscript
  deriving DecidableEq, Repr, Inhabited

namespace JoiningLetter

/-- The letter as which a character joins. -/
def ofChar? (character : Char) : Option JoiningLetter :=
  if inRanges alefRanges character.toNat then some .alef
  else if character == '\u05dc' then some .lamed
  else if character == '\u1a10' then some .bugineseYa
  else if isTifinaghConsonant character then some .tifinagh
  else if character == '\ua4fc' || character == '\ua4fd' then some .lisuTone
  else if character.toNat == 0x10c03 then some .turkicI
  else if inRanges subscriptRanges character.toNat then some .subscript
  else none

/-- The character may stand between the letter and what it joins.  Arabic
letters have a rule of their own. -/
def allowsBetween (letter : JoiningLetter) (character : Char) : Bool :=
  letter != .alef && isInsideShape character

/-- The columns that a character in front of the letter adds when the two make
one shape, and the letter that goes on joining.  Most shapes need a joiner
between the two; a column is taken back where the letter has been counted
before. -/
def join? (letter : JoiningLetter) (joined : Bool) (character : Char) :
    Option (Int × Option JoiningLetter) :=
  match letter, joined with
  | .alef, _ =>
      if inRanges lamRanges character.toNat then some (0, none)
      else if isTransparentMark character then some (0, some .alef)
      else none
  | .lamed, true => if character == '\u05d0' then some (0, none) else none
  | .bugineseYa, true =>
      if character == '\u1a17' then some (0, some .bugineseVowelYa) else none
  | .bugineseVowelYa, _ =>
      if character == '\u1a15' then some (0, none) else none
  | .tifinagh, _ =>
      if character == '\u2d7f' then some (1, some .tifinaghPair)
      else if joined && isTifinaghConsonant character then some (0, none)
      else none
  | .tifinaghPair, _ =>
      if isTifinaghConsonant character then some (-1, none) else none
  | .lisuTone, _ =>
      if '\ua4f8' ≤ character && character ≤ '\ua4fb' then some (0, none)
      else none
  | .turkicI, true =>
      if character.toNat == 0x10c32 then some (0, none) else none
  | .subscript, _ => if character == '\u17d2' then some (-1, none) else none
  | _, false => none

end JoiningLetter

end QueryLint.Text
