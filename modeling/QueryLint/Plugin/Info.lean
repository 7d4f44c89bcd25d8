/-!
# What plugins say of themselves

Plugin interfaces have versions in the form of dates.  A plugin fits the tool
when both come from the same year.
-/

namespace QueryLint

/-- The major part of a version in the form of a date: its year. -/
def apiYear (version : Nat) : Nat :=
  version / 10000

def sameApiYear (left right : Nat) : Bool :=
  apiYear left == apiYear right

/-- The version of the plugin interface that this tool provides. -/
def apiVersion : Nat :=
  20250727

/-- What a plugin says of itself; an automatically active plugin need not be
named to take part. -/
structure PluginInfo where
  name : String
  version : String
  description : String
  author : String
  apiVersion : Nat
  autoActive : Bool
  deriving DecidableEq, Repr, Inhabited

end QueryLint
