import QueryLint.Rule.PrintStatement
import QueryLint.Rule.SelectStar
import QueryLint.Rule.SemicolonTermination
import QueryLint.Rule.Severity

/-!
# The rules

Each rule has a name, a severity that applies unless it is overridden, and a
check over the code lines of a unit.
-/

namespace QueryLint

/-- The rules that the linter knows. -/
inductive Rule where
  | selectStar
  | semicolonTermination
  | printStatement
  deriving DecidableEq, Repr, Inhabited

namespace Rule

/-- Every rule, in the order of evaluation. -/
def all : List Rule :=
  [selectStar, semicolonTermination, printStatement]

/-- The name by which configurations and directives call the rule. -/
def name : Rule → String
  | selectStar => "select-star"
  | semicolonTermination => "semicolon-termination"
  | printStatement => "print-statement"

/-- The severity that applies unless it is overridden. -/
def defaultSeverity : Rule → Severity
  | selectStar => .error
  | semicolonTermination => .warning
  | printStatement => .error

def check : Rule → List Text → List Finding
  | selectStar => SelectStar.check
  | semicolonTermination => SemicolonTermination.check
  | printStatement => PrintStatement.check

def ofName? (text : String) : Option Rule :=
  all.find? fun rule => rule.name == text

end Rule

end QueryLint
