/-!
# Values of configuration files

Configuration files are written in TOML.  Floating point numbers and moments in
time are kept as they are written, because no setting takes one.
-/

namespace QueryLint.Toml

/-- A value; the entries of a table are in ascending order of their keys. -/
inductive Value where
  | text (text : String)
  | integer (number : Int)
  | float (written : String)
  | flag (value : Bool)
  | moment (written : String)
  | list (values : List Value)
  | table (entries : List (String × Value))

abbrev Table := List (String × Value)

namespace Value

def asText? : Value → Option String
  | text content => some content
  | _ => none

def asInteger? : Value → Option Int
  | integer number => some number
  | _ => none

def asFlag? : Value → Option Bool
  | flag value => some value
  | _ => none

end Value

end QueryLint.Toml
