/-!
# Styles of terminal output

Every kind of text has a role, and every role a colour.  Colours are written as
escape sequences around the text.
-/

namespace QueryLint

/-- The colours that are in use. -/
inductive Color where
  | red
  | green
  | yellow
  | blue
  | cyan
  | gray
  | brightRed
  deriving DecidableEq, Repr, Inhabited

namespace Color

def code : Color → String
  | red => "31"
  | green => "32"
  | yellow => "33"
  | blue => "34"
  | cyan => "36"
  | gray => "90"
  | brightRed => "91"

def letter : Color → String
  | red => "r"
  | green => "g"
  | yellow => "y"
  | blue => "b"
  | cyan => "c"
  | gray => "K"
  | brightRed => "R"

end Color

/-- What a text is for. -/
inductive StyleRole where
  | header
  | literal
  | placeholder
  | valid
  | invalid
  | error
  | name
  | dim
  deriving DecidableEq, Repr, Inhabited

/-- The sequence that begins a style. -/
def escapeSequence (code : String) : String :=
  "\x1b[" ++ code ++ "m"

namespace StyleRole

def color : StyleRole → Color
  | header => .yellow
  | literal => .cyan
  | placeholder => .green
  | valid => .green
  | invalid => .red
  | error => .brightRed
  | name => .blue
  | dim => .gray

/-- The text in the colour of the role, if colours are enabled. -/
def paint (role : StyleRole) (enabled : Bool) (text : String) : String :=
  if enabled then escapeSequence role.color.code ++ text ++ escapeSequence "0"
  else text

def cellStyle (role : StyleRole) : String :=
  "F" ++ role.color.letter

/-- The sequence that begins the role in help texts. -/
def opening (role : StyleRole) (bold : Bool) : String :=
  (if bold then escapeSequence "1" else "") ++ escapeSequence role.color.code

end StyleRole

/-- The sequences that begin the parts of help texts. -/
structure Palette where
  header : String
  literal : String
  placeholder : String
  valid : String
  invalid : String
  error : String
  usage : String
  deriving DecidableEq, Repr, Inhabited

namespace Palette

/-- No part of a help text has a style. -/
def plain : Palette :=
  ⟨"", "", "", "", "", "", ""⟩

/-- Headers are bold, and usage is bold and underlined. -/
def colored : Palette :=
  { header := StyleRole.header.opening true
    literal := StyleRole.literal.opening false
    placeholder := StyleRole.placeholder.opening false
    valid := StyleRole.valid.opening false
    invalid := StyleRole.invalid.opening false
    error := StyleRole.error.opening false
    usage := escapeSequence "1" ++ escapeSequence "4" }

/-- The palette with or without colours. -/
def of (enabled : Bool) : Palette :=
  if enabled then colored else plain

end Palette

end QueryLint
