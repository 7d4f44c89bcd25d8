import QueryLint.Config.File
import QueryLint.Staging.Units

/-!
# Paths of a command line

Carrying options out leads to few places in the file system: the configuration
file, the file of the logger and the units, each of which may be a path.  The
rest of the file system need not be known.
-/

namespace QueryLint.Options

/-- The paths that matter before the configuration file is loaded. -/
def configPaths (options : Options) (files : FileTree) : List String :=
  options.configFile.toList ++ files.homeConfig?.toList

/-- The paths that matter once the configuration file is loaded. -/
def workPaths (options : Options) : List String :=
  options.logFile.toList ++ unitsOf options.inputs

end QueryLint.Options
