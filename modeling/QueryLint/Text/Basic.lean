/-!
# Texts as character lists

A text under analysis is a list of characters, so that every rule about it is a
recursion on the list.  This module supplies white space, trimming, the ASCII
case fold and the splitting of a text at separators.
-/

namespace QueryLint

/-- A text under analysis, one entry per character. -/
abbrev Text := List Char

namespace Text

/-- White space: the characters with the Unicode property `White_Space`. -/
def isBlank (character : Char) : Bool :=
  let code := character.toNat
  (9 ≤ code && code ≤ 13) || code == 0x20 || code == 0x85 || code == 0xA0 ||
    code == 0x1680 || (0x2000 ≤ code && code ≤ 0x200A) || code == 0x2028 ||
    code == 0x2029 || code == 0x202F || code == 0x205F || code == 0x3000

/-- A text of white space only; the empty text is one. -/
def allBlank (text : Text) : Bool :=
  text.all isBlank

/-- The text without its leading white space. -/
def trimStart (text : Text) : Text :=
  text.dropWhile isBlank

/-- The text without its trailing white space. -/
def trimEnd : Text → Text
  | [] => []
  | character :: rest =>
      let trimmed := trimEnd rest
      if trimmed.isEmpty && isBlank character then [] else character :: trimmed

/-- The text without white space at either end. -/
def trim (text : Text) : Text :=
  trimEnd (trimStart text)

/-- Letters `A` to `Z` become `a` to `z`; every other character stays. -/
def lower (text : Text) : Text :=
  text.map Char.toLower

def sameIgnoringCase (left right : Text) : Bool :=
  lower left == lower right

theorem sameIgnoringCase_iff {left right : Text} :
    sameIgnoringCase left right = true ↔ lower left = lower right :=
  beq_iff_eq

/-- The pieces between separators, in order and empty ones included; a text
without a separator is one piece. -/
def splitOn (isSeparator : Char → Bool) : Text → List Text
  | [] => [[]]
  | character :: rest =>
      match splitOn isSeparator rest with
      | [] => [[]]
      | piece :: pieces =>
          if isSeparator character then [] :: piece :: pieces
          else (character :: piece) :: pieces

theorem splitOn_ne_nil (isSeparator : Char → Bool) (text : Text) :
    splitOn isSeparator text ≠ [] := by
  cases text with
  | nil => simp [splitOn]
  | cons character rest =>
      simp only [splitOn]
      split
      · simp
      · split <;> simp

def byteLength (text : Text) : Nat :=
  text.foldl (fun total character => total + character.utf8Size) 0

end Text

def inRanges (ranges : List (Nat × Nat)) (code : Nat) : Bool :=
  ranges.any fun range => range.1 ≤ code && code ≤ range.2

end QueryLint
