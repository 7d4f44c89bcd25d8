import QueryLint.Plugin.Error
import QueryLint.Rule.Error

/-!
# Errors of a run

A run stops at the first unit on which a rule or a plugin fails.
-/

namespace QueryLint

/-- What failed on a unit. -/
inductive DispatchError where
  | rules (error : RuleError)
  | plugins (error : PluginError)
  deriving DecidableEq, Repr, Inhabited

namespace DispatchError

def message : DispatchError → String
  | rules _ => "rule evaluation failed"
  | plugins _ => "plugin activation failed"

/-- The wording of the error behind it. -/
def cause : DispatchError → String
  | rules error => error.message
  | plugins error => error.message

end DispatchError

/-- Why a run has no report. -/
inductive RunError where
  | dispatch (unit : String) (source : DispatchError)
  | synchronisation (explanation : String)
  deriving DecidableEq, Repr, Inhabited

def RunError.message : RunError → String
  | dispatch unit source => s!"dispatch of '{unit}' failed: {source.message}"
  | synchronisation explanation => explanation

end QueryLint
