import QueryLint.Files.Error

/-!
# Staging errors
-/

namespace QueryLint

/-- Why a unit could not be staged. -/
inductive StageError where
  | read (path : String) (reason : FileError)
  | registration (explanation : String)
  | taskFailed (unit explanation : String)
  deriving DecidableEq, Repr, Inhabited

namespace StageError

def message : StageError → String
  | read path reason => s!"failed to read '{path}': {reason.message}"
  | registration explanation =>
      s!"could not register staged content: {explanation}"
  | taskFailed unit explanation =>
      s!"staging task for '{unit}' did not complete: {explanation}"

end StageError

end QueryLint
