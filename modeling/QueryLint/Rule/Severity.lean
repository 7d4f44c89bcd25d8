/-!
# Severities

How findings of a rule are treated, and the names by which configurations call
the three treatments.
-/

namespace QueryLint

/-- How findings of a rule are treated; a rule that is off is not evaluated. -/
inductive Severity where
  | off
  | warning
  | error
  deriving DecidableEq, Repr, Inhabited

namespace Severity

def name : Severity → String
  | off => "off"
  | warning => "warning"
  | error => "error"

def all : List Severity :=
  [off, warning, error]

/-- The severity with the name, in any case of ASCII letters. -/
def ofName? (text : String) : Option Severity :=
  all.find? fun severity => severity.name.toList == text.toList.map Char.toLower

end Severity

end QueryLint
