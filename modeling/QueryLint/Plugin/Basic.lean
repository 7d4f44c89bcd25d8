import QueryLint.Plugin.Dump

/-!
# Plugins

A plugin is the dump plugin or one given from outside by what it answers to each
call.  Every plugin is called in the same three ways.
-/

namespace QueryLint

/-- Where a text goes: the tool's standard output, the sink of its reports or
one more sink. -/
inductive Outlet where
  | standard
  | report
  | extra
  deriving DecidableEq, Repr, Inhabited

/-- A call to a plugin: before the first unit, for a unit, after the last. -/
inductive PluginCall where
  | prepare
  | activate (view : UnitView)
  | cleanup
  deriving DecidableEq, Repr

/-- The operation that a call asks for, as errors name it. -/
def PluginCall.operation : PluginCall → String
  | prepare => "initialize"
  | activate _ => "activate"
  | cleanup => "cleanup"

/-- A plugin.  One from outside accepts some versions of the plugin interface,
and answers each call with an error or none. -/
inductive Plugin where
  | dump (state : Dump) (outlet : Outlet)
  | custom (info : PluginInfo) (accepts : Nat → Bool)
      (respond : PluginCall → Option PluginError)

namespace Plugin

def info : Plugin → PluginInfo
  | dump .. => Dump.info
  | custom info .. => info

def name (plugin : Plugin) : String :=
  plugin.info.name

/-- The plugin accepts a version of the plugin interface. -/
def accepts : Plugin → Nat → Bool
  | dump .., system => sameApiYear QueryLint.apiVersion system
  | custom _ accepts _, system => accepts system

def isCustom : Plugin → Bool
  | dump .. => false
  | custom .. => true

/-- A dump plugin that writes to the outlet. -/
def newDump (outlet : Outlet) : Plugin :=
  .dump Dump.start outlet

/-- The plugins that come with the tool, in order of their names. -/
def builtins : List Plugin :=
  [newDump .standard]

end Plugin

end QueryLint
