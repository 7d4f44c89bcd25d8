/-!
# Rule errors

Overrides may name no rule or no severity, and an evaluation may fail.
-/

namespace QueryLint

/-- Why rules could not be set up or evaluated.  An unknown rule and an invalid
severity carry no text for the user: wherever such an error is made, that text
is its message. -/
inductive RuleError where
  | unknownRule (name : String)
  | invalidSeverity (rule value : String)
  | evaluation (rule unit cause : String)
  deriving DecidableEq, Repr, Inhabited

namespace RuleError

def message : RuleError → String
  | unknownRule name => s!"Unknown rule '{name}' in configuration"
  | invalidSeverity rule value =>
      s!"Invalid severity '{value}' for rule '{rule}' (expected off, warning or error)"
  | evaluation rule unit cause => s!"Rule '{rule}' failed on '{unit}': {cause}"

end RuleError

end QueryLint
