import QueryLint.Text.Keyword
import QueryLint.Rule.Finding

/-!
# Stars in place of column names

The rule finds the star of `SELECT *`, also behind `DISTINCT` and behind `TOP`
with a number.  Columns count bytes of the line in UTF-8.
-/

namespace QueryLint.SelectStar

/-- The text after one or more white space characters. -/
def afterBlanks? : Text → Option Text
  | character :: rest =>
      if Text.isBlank character then some (Text.trimStart rest) else none
  | [] => none

/-- The text after an optional character. -/
def skipOptional (expected : Char) : Text → Text
  | character :: rest =>
      if character == expected then rest else character :: rest
  | [] => []

/-- The text after one or more decimal digits. -/
def afterDigits? : Text → Option Text
  | character :: rest =>
      if Text.isDecimal character then some (rest.dropWhile Text.isDecimal)
      else none
  | [] => none

/-- The text after `TOP`, a number that may stand in parentheses, and white
space. -/
def afterTop? (text : Text) : Option Text := do
  let afterWord ← Text.afterKeyword? "top".toList text
  let afterSpace ← afterBlanks? afterWord
  let afterNumber ← afterDigits? (skipOptional '(' afterSpace)
  afterBlanks? (skipOptional ')' afterNumber)

/-- The text after `DISTINCT` and white space. -/
def afterDistinct? (text : Text) : Option Text := do
  let afterWord ← Text.afterKeyword? "distinct".toList text
  afterBlanks? afterWord

/-- The text after what may stand between `SELECT` and the star. -/
def afterModifier (text : Text) : Text :=
  match afterDistinct? text with
  | some rest => rest
  | none => (afterTop? text).getD text

/-- The text after the star of a `SELECT *` that begins here. -/
def afterStar? (text : Text) : Option Text := do
  let afterWord ← Text.afterKeyword? "select".toList text
  let afterSpace ← afterBlanks? afterWord
  match afterModifier afterSpace with
  | '*' :: rest => some rest
  | _ => none

/-- Byte offsets of the stars in a text, counted from the given offset.  The
flag tells that the character before the text continues a word. -/
def starOffsets : (offset : Nat) → (insideWord : Bool) → Text → List Nat
  | _, _, [] => []
  | offset, insideWord, character :: rest =>
      let later :=
        starOffsets (offset + character.utf8Size)
          (Text.isWordChar character) rest
      match insideWord, afterStar? (character :: rest) with
      | false, some afterStar =>
          let total := offset + Text.byteLength (character :: rest)
          (total - Text.byteLength afterStar - 1) :: later
      | _, _ => later

def columns (line : Text) : List Nat :=
  (starOffsets 0 false line).map (· + 1)

def check (lines : List Text) : List Finding :=
  Finding.onEachLine "Expected column names in SELECT" columns lines

end QueryLint.SelectStar
