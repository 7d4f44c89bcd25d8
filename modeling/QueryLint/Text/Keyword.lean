import QueryLint.Text.WordChar

/-!
# Keywords in any case

A keyword is written in lower case ASCII letters and hyphens.  It matches a
text whose characters fold to it: beside the two cases of each letter, the long
s folds to `s` and the Kelvin sign to `k`.
-/

namespace QueryLint.Text

/-- The character folds to the given lower case letter or equals the sign. -/
def foldsTo (letter character : Char) : Bool :=
  character.toLower == letter ||
    (letter == 's' && character == '\u017f') ||
    (letter == 'k' && character == '\u212a')

/-- The text after a keyword, if the text starts with it in any case. -/
def afterKeyword? : (keyword text : Text) → Option Text
  | [], text => some text
  | _ :: _, [] => none
  | letter :: keyword, character :: text =>
      if foldsTo letter character then afterKeyword? keyword text else none

end QueryLint.Text
