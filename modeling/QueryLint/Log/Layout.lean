import QueryLint.Log.Record
import QueryLint.Style.Role
import QueryLint.Text.Basic

/-!
# How records are written

A record is written on a line as plain text, as text with the place it comes
from, or as a JSON object.  The place is the target in the form of a path.
-/

namespace QueryLint.Log

/-- How records are written. -/
inductive Layout where
  | text
  | extended
  | json
  deriving DecidableEq, Repr, Inhabited

namespace Layout

def all : List Layout :=
  [text, extended, json]

def name : Layout → String
  | text => "text"
  | extended => "ext"
  | json => "json"

def ofName? (text : String) : Option Layout :=
  all.find? fun layout => layout.name == text

def ofAnyCase? (text : String) : Option Layout :=
  ofName? (String.ofList (Text.lower text.toList))

end Layout

/-- A reading of the calendar and the clock. -/
structure Moment where
  date : String
  time : String
  deriving DecidableEq, Repr, Inhabited

/-- The target with slashes in place of double colons. -/
def slashed : Text → Text
  | ':' :: ':' :: rest => '/' :: slashed rest
  | character :: rest => character :: slashed rest
  | [] => []

def targetRoot : Text :=
  "sqllint::".toList

/-- The place that a record comes from, with its line if it is known. -/
def place (target : String) (line? : Option Nat) : String :=
  let text := target.toList
  let path :=
    if targetRoot.isPrefixOf text then
      slashed (text.drop targetRoot.length) ++ ".rs".toList
    else slashed text
  match line? with
  | some line => s!"{String.ofList path}:{line}"
  | none => String.ofList path

/-- A text in a style, if colours are enabled. -/
def styled (enabled : Bool) (code text : String) : String :=
  if enabled then escapeSequence code ++ text ++ escapeSequence "0" else text

def Level.style : Level → String
  | error => "1;31"
  | warn => "33"
  | info => "32"
  | debug => "34"
  | trace => "35"

/-- The style of what stands back. -/
def dimmed : String :=
  "2"

def hexDigit (digit : Nat) : Char :=
  (Nat.toDigits 16 digit).headD '0'

def jsonChar (character : Char) : String :=
  match character with
  | '"' => "\\\""
  | '\\' => "\\\\"
  | '\n' => "\\n"
  | '\r' => "\\r"
  | '\t' => "\\t"
  | '\x08' => "\\b"
  | '\x0c' => "\\f"
  | _ =>
      if character.toNat < 32 then
        "\\u00" ++ String.ofList
          [hexDigit (character.toNat / 16), hexDigit (character.toNat % 16)]
      else character.toString

def jsonText (text : String) : String :=
  "\"" ++ String.join (text.toList.map jsonChar) ++ "\""

def jsonObject (entries : List (String × String)) : String :=
  let written :=
    entries.map fun entry => jsonText entry.1 ++ ":" ++ jsonText entry.2
  "\x7b" ++ ",".intercalate written ++ "\x7d"

/-- The line of a record, without its end. -/
def Layout.render (layout : Layout) (colored : Bool) (now : Moment)
    (record : Record) (line? : Option Nat) : String :=
  let origin := place record.target line?
  let stamp := styled colored dimmed s!"{now.date} {now.time}"
  let level := styled colored record.level.style record.level.shortName
  match layout with
  | text => s!"{stamp} {level} {record.message}"
  | extended =>
      s!"{stamp} {level} {record.message} ({styled colored dimmed origin})"
  | json =>
      jsonObject
        [("level", record.level.shortName), ("message", record.message),
          ("target", origin), ("timestamp", s!"{now.date}T{now.time}Z")]

end QueryLint.Log
