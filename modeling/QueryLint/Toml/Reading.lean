import QueryLint.Text.Basic

/-!
# Reading TOML text

A reader takes a text and gives what it has read with the rest of the text.  If
it fails, it gives the text from the place of the failure on.
-/

namespace QueryLint.Toml

def isSpace (character : Char) : Bool :=
  character == ' ' || character == '\t'

/-- The text without white space in front. -/
def skipSpaces (text : Text) : Text :=
  text.dropWhile isSpace

/-- A character that may stand in comments and strings. -/
def isPrintable (character : Char) : Bool :=
  character == '\t' || (0x20 ≤ character.toNat && character.toNat ≠ 0x7f)

/-- Reads white space, line ends and comments; the flag tells that a comment is
open. -/
def skipTrivia : (inComment : Bool) → Text → Except Text Text
  | _, [] => .ok []
  | _, '\n' :: rest => skipTrivia false rest
  | _, '\r' :: '\n' :: rest => skipTrivia false rest
  | true, character :: rest =>
      if isPrintable character then skipTrivia true rest
      else .error (character :: rest)
  | false, character :: rest =>
      if character == '#' then skipTrivia true rest
      else if isSpace character then skipTrivia false rest
      else .ok (character :: rest)

/-- Reads the rest of a line: white space, a comment and the line end.  The flag
tells that a comment is open. -/
def endLine : (inComment : Bool) → Text → Except Text Text
  | _, [] => .ok []
  | _, '\n' :: rest => .ok rest
  | _, '\r' :: '\n' :: rest => .ok rest
  | true, character :: rest =>
      if isPrintable character then endLine true rest
      else .error (character :: rest)
  | false, character :: rest =>
      if character == '#' then endLine true rest
      else if isSpace character then endLine false rest
      else .error (character :: rest)

def expect (expected : Char) : Text → Except Text Text
  | character :: rest =>
      if character == expected then .ok rest else .error (character :: rest)
  | [] => .error []

end QueryLint.Toml
