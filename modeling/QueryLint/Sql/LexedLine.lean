import QueryLint.Text.Basic

/-!
# Lines of SQL split into code and comments

A lexed line keeps the code of a line with every comment and string literal
blanked out, column by column, and the bodies of its comments.  String literals
and block comments run on over line ends, so lexing a line needs to know the
region in which the line begins.
-/

namespace QueryLint

/-- What a character belongs to: plain code, a string literal or a block
comment. -/
inductive Region where
  | code
  | literal
  | comment
  deriving DecidableEq, Repr, Inhabited

/-- A line split into code and comments.  The code is as long as the line, with
blanks for comments and string literals; the comments are bodies without their
delimiters. -/
structure LexedLine where
  code : Text
  comments : List Text
  deriving DecidableEq, Repr, Inhabited

namespace LexedLine

def withCode (character : Char) (line : LexedLine) : LexedLine :=
  { line with code := character :: line.code }

/-- The line with one more character at the start of its first comment. -/
def withBody (character : Char) (line : LexedLine) : LexedLine :=
  match line.comments with
  | [] => { code := ' ' :: line.code, comments := [[character]] }
  | body :: later =>
      { code := ' ' :: line.code, comments := (character :: body) :: later }

/-- The line with one more comment in front, whose body is complete. -/
def withComment (body : Text) (line : LexedLine) : LexedLine :=
  { line with comments := body :: line.comments }

/-- A line that begins in the given region, and the region in which the next
line begins.  In a block comment the first comment of the result is the rest
of the open body. -/
def lex : Region → Text → LexedLine × Region
  | .code, [] => (⟨[], []⟩, .code)
  | .literal, [] => (⟨[], []⟩, .literal)
  | .comment, [] => (⟨[], [[]]⟩, .comment)
  | .code, '-' :: '-' :: body =>
      (⟨List.replicate (body.length + 2) ' ', [body]⟩, .code)
  | .code, '/' :: '*' :: rest =>
      let (line, region) := lex .comment rest
      ((line.withCode ' ').withCode ' ', region)
  | .code, '\'' :: rest =>
      let (line, region) := lex .literal rest
      (line.withCode ' ', region)
  | .code, character :: rest =>
      let (line, region) := lex .code rest
      (line.withCode character, region)
  | .literal, '\'' :: '\'' :: rest =>
      let (line, region) := lex .literal rest
      ((line.withCode ' ').withCode ' ', region)
  | .literal, '\'' :: rest =>
      let (line, region) := lex .code rest
      (line.withCode ' ', region)
  | .literal, _ :: rest =>
      let (line, region) := lex .literal rest
      (line.withCode ' ', region)
  | .comment, '*' :: '/' :: rest =>
      let (line, region) := lex .code rest
      (((line.withCode ' ').withCode ' ').withComment [], region)
  | .comment, character :: rest =>
      let (line, region) := lex .comment rest
      (line.withBody character, region)

/-- Lexes lines in order, each from the region in which the one before it
ended. -/
def lexFrom : Region → List Text → List LexedLine
  | _, [] => []
  | region, line :: rest =>
      let (lexed, next) := lex region line
      lexed :: lexFrom next rest

/-- Lexes the lines of a unit, which begins in code. -/
def lexAll (lines : List Text) : List LexedLine :=
  lexFrom .code lines

end LexedLine

/-- The code of each line: comments and string literals blanked out, every
column kept in place. -/
def codeOnly (lines : List Text) : List Text :=
  (LexedLine.lexAll lines).map LexedLine.code

end QueryLint
