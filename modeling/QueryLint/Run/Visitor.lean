import QueryLint.Plugin.Dump
import QueryLint.Rule.RuleSet

/-!
# Visitors

A visitor looks at a unit and gives its verdicts; it may fail on the unit.
-/

namespace QueryLint

/-- What a visitor says of a unit. -/
structure Visit where
  verdicts : List Verdict
  error? : Option RuleError
  deriving DecidableEq, Repr

/-- Looks at units. -/
abbrev Visitor := UnitView → Visit

/-- The visitor that evaluates a rule set. -/
def RuleSet.visitor (rules : RuleSet) : Visitor := fun view =>
  ⟨rules.evaluate view.unit view.suppressions (textLines view.bytes), none⟩

end QueryLint
