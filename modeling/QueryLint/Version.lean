import QueryLint.Plugin.Info

/-!
# The version of the tool
-/

namespace QueryLint

/-- When and from what the tool was built. -/
structure BuildInfo where
  time : String
  revision : String
  deriving DecidableEq, Repr, Inhabited

def toolVersion : String :=
  "0.1.0"

/-- The line that tells the version of the tool. -/
def BuildInfo.banner (build : BuildInfo) : String :=
  s!"sqllint {toolVersion} (plugin API {apiVersion}, built {build.time}, {build.revision})"

end QueryLint
