/-!
# Log records

A record says something about the work in progress: how much it matters, which
part of the tool it comes from, and a text.
-/

namespace QueryLint.Log

/-- How much a record matters, most first. -/
inductive Level where
  | error
  | warn
  | info
  | debug
  | trace
  deriving DecidableEq, Repr, Inhabited

namespace Level

/-- Rank of a level; the more a level matters, the lower its rank. -/
def rank : Level → Nat
  | error => 1
  | warn => 2
  | info => 3
  | debug => 4
  | trace => 5

def name : Level → String
  | error => "ERROR"
  | warn => "WARN"
  | info => "INFO"
  | debug => "DEBUG"
  | trace => "TRACE"

def shortName : Level → String
  | error => "ERR"
  | warn => "WRN"
  | info => "INF"
  | debug => "DBG"
  | trace => "TRC"

end Level

/-- One record; the target is a path of names that says where it comes from. -/
structure Record where
  level : Level
  target : String
  message : String
  deriving DecidableEq, Repr, Inhabited

end QueryLint.Log
