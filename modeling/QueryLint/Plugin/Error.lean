/-!
# Plugin errors
-/

namespace QueryLint

/-- Why a plugin could not be found, registered or used. -/
inductive PluginError where
  | notFound (plugin : String)
  | versionIncompatible (explanation : String)
  | load (plugin cause : String)
  | execution (plugin operation cause : String)
  | generic (explanation : String)
  deriving DecidableEq, Repr, Inhabited

namespace PluginError

def message : PluginError → String
  | notFound plugin => s!"Plugin not found: {plugin}"
  | versionIncompatible explanation => s!"Version incompatible: {explanation}"
  | load plugin cause => s!"Failed to load plugin '{plugin}': {cause}"
  | execution plugin operation cause =>
      s!"Plugin '{plugin}' failed during '{operation}': {cause}"
  | generic explanation => explanation

end PluginError

end QueryLint
