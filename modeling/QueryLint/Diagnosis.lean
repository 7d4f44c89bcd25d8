import QueryLint.Log.Record
import QueryLint.Plugin.Error
import QueryLint.Rule.Error
import QueryLint.Run.Error
import QueryLint.Text.Quoted

/-!
# Errors for users

Some errors can be mended by the user, and their own wording is shown.  Of any
other error the user learns which operation failed, and the log has the rest.
-/

namespace QueryLint

/-- Errors that know whether the user can mend them. -/
class Diagnosed (ε : Type) where
  /-- The wording of the error. -/
  message : ε → String
  /-- The user can mend the error. -/
  actionable : ε → Bool
  /-- The wording that is meant for the user. -/
  userMessage? : ε → Option String

/-- The wording for the user of an error that the user can mend. -/
def mendable? [Diagnosed ε] (error : ε) : Option String :=
  match Diagnosed.userMessage? error with
  | some message => if Diagnosed.actionable error then some message else none
  | none => none

/-- What the user is told when an operation fails. -/
def userFacing [Diagnosed ε] (error : ε) (operation : String) : String :=
  (mendable? error).getD s!"{operation} failed"

/-- The records of an operation that failed, in growing detail. -/
def diagnosisRecords [Diagnosed ε] (error : ε) (operation : String) :
    List Log.Record :=
  let target := "sqllint::core::error_handling"
  [⟨.error, target, s!"FATAL: {(mendable? error).getD operation}"⟩,
    ⟨.debug, target, s!"DETAIL: {Diagnosed.message error}"⟩,
    ⟨.debug, target,
      s!"DEBUG_DETAILS: {Text.quoted (Diagnosed.message error)}"⟩]

instance : Diagnosed RuleError where
  message := RuleError.message
  actionable
    | .unknownRule _ | .invalidSeverity .. => true
    | .evaluation .. => false
  userMessage?
    | .evaluation .. => none
    | error => some error.message

instance : Diagnosed PluginError where
  message := PluginError.message
  actionable
    | .versionIncompatible _ => true
    | _ => false
  userMessage?
    | .versionIncompatible explanation => some explanation
    | _ => none

instance : Diagnosed RunError where
  message := RunError.message
  actionable _ := false
  userMessage? _ := none

end QueryLint
