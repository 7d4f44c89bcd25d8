import QueryLint.Diagnosis
import QueryLint.Files.Error
import QueryLint.Text.Count
import QueryLint.Toml.Document

/-!
# Errors of settings

A setting may have a value that is not accepted, on the command line or in a
configuration file, and the file itself may not be usable.
-/

namespace QueryLint

/-- Why the value of a setting is not accepted. -/
inductive SettingError where
  | zeroCount
  | notCount (text : String)
  | unknownLevel (text : String)
  | unknownFormat (text : String)
  | notText (key : String)
  | notFlag (key : String)
  | notPositive (key : String)
  | notTextOrList (key : String)
  | entryNotText (key : String)
  | notTable (key : String)
  | severityNotText (rule : String)
  | other (explanation : String)
  deriving DecidableEq, Repr, Inhabited

namespace SettingError

def message : SettingError → String
  | zeroCount => "Value must be greater than 0"
  | notCount text => s!"'{text}' is not a valid positive integer"
  | unknownLevel text =>
      s!"Invalid log-level '{text}' (expected one of trace, debug, info, warn, error, off)"
  | unknownFormat text =>
      s!"Invalid log-format '{text}' (expected text, ext or json)"
  | notText key => s!"'{key}' must be a string"
  | notFlag key => s!"'{key}' must be true or false"
  | notPositive key => s!"'{key}' must be a positive integer"
  | notTextOrList key => s!"'{key}' must be a string or a list of strings"
  | entryNotText key => s!"'{key}' entries must be strings"
  | notTable key => s!"'{key}' must be a table"
  | severityNotText rule => s!"Severity of rule '{rule}' must be a string"
  | other explanation => explanation

end SettingError

instance : Diagnosed SettingError where
  message := SettingError.message
  actionable _ := true
  userMessage? error := some error.message

/-- The positive count that a text writes. -/
def positiveCount (text : String) : Except SettingError Nat :=
  match Text.unsigned? text.toList with
  | some 0 => .error .zeroCount
  | some number => .ok number
  | none => .error (.notCount text)

/-- Why a configuration file could not be used. -/
inductive ConfigError where
  | notFound (path : String)
  | read (path : String) (reason : FileError)
  | parse (path : String) (reason : Toml.Error)
  | invalid (path : String) (reason : SettingError)
  | alreadyExists (path : String)
  | write (path : String) (reason : FileError)
  | noHomeDirectory
  deriving DecidableEq, Repr, Inhabited

namespace ConfigError

def message : ConfigError → String
  | notFound path => s!"The specified configuration file does not exist: {path}"
  | read path reason =>
      s!"Error reading configuration file {path}: {reason.message}"
  | parse path reason =>
      s!"Error parsing configuration file {path}: {reason.message}"
  | invalid path reason =>
      s!"Error in configuration file {path}: {reason.message}"
  | alreadyExists path =>
      s!"Configuration file already exists: {path} (use --force to overwrite)"
  | write path reason =>
      s!"Could not write configuration file {path}: {reason.message}"
  | noHomeDirectory =>
      "No home directory found; use --config to name a configuration file"

end ConfigError

instance : Diagnosed ConfigError where
  message := ConfigError.message
  actionable
    | .read .. | .write .. => false
    | _ => true
  userMessage?
    | .invalid _ reason => some reason.message
    | .noHomeDirectory => some ConfigError.noHomeDirectory.message
    | _ => none

end QueryLint
