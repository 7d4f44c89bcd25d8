import QueryLint.Rule.Severity

/-!
# Violations

A violation is a finding of a rule in a named unit, with the severity that the
rule has in this run.
-/

namespace QueryLint

/-- A finding with its unit, rule and severity. -/
structure Violation where
  unit : String
  line : Nat
  column : Nat
  severity : Severity
  rule : String
  text : String
  deriving DecidableEq, Repr, Inhabited

/-- The line that reports a violation. -/
def Violation.render (violation : Violation) : String :=
  s!"{violation.unit}({violation.line},{violation.column}): " ++
    s!"{violation.severity.name} {violation.rule} : {violation.text}."

end QueryLint
