import QueryLint.Ordered
import QueryLint.Plugin.Basic
import QueryLint.Text.Quoted

/-!
# The plugin registry

The registry holds plugins by name and the names of the active ones.  A name
stays with the plugin that was registered first under it, and only a registered
plugin can be active.
-/

namespace QueryLint

/-- Plugins by name, and the active names, both in ascending order. -/
structure Registry where
  plugins : List (String × Plugin)
  active : List String

namespace Registry

/-- A registry without plugins. -/
def empty : Registry :=
  ⟨[], []⟩

def find? (registry : Registry) (name : String) : Option Plugin :=
  Ordered.find? name registry.plugins

def has (registry : Registry) (name : String) : Bool :=
  Ordered.has name registry.plugins

/-- The names of the registered plugins, sorted. -/
def names (registry : Registry) : List String :=
  Ordered.keys registry.plugins

/-- What the registered plugins say of themselves, in order of their names. -/
def infos (registry : Registry) : List PluginInfo :=
  (Ordered.values registry.plugins).map Plugin.info

def count (registry : Registry) : Nat :=
  registry.plugins.length

def isActive (registry : Registry) (name : String) : Bool :=
  registry.active.contains name

/-- Registers a plugin under its name, unless the name is taken. -/
def register (registry : Registry) (plugin : Plugin) :
    Except PluginError Registry :=
  if registry.has plugin.name then
    .error (.generic s!"Plugin '{plugin.name}' is already registered")
  else
    .ok { registry with
      plugins := Ordered.put plugin.name plugin registry.plugins }

def activate (registry : Registry) (name : String) :
    Except PluginError Registry :=
  if registry.has name then
    .ok { registry with active := Ordered.add name registry.active }
  else .error (.notFound name)

def deactivate (registry : Registry) (name : String) :
    Except PluginError Registry :=
  if registry.has name then
    .ok { registry with
      active := registry.active.filter fun other => other != name }
  else .error (.notFound name)

/-- Puts back a registered plugin after a call to it. -/
def update (registry : Registry) (name : String) (plugin : Plugin) : Registry :=
  { registry with plugins := Ordered.put name plugin registry.plugins }

def describe (registry : Registry) : String :=
  let quotedNames (names : List String) : String :=
    ", ".intercalate (names.map Text.quoted)
  "PluginRegistry \x7b plugins: [" ++ quotedNames registry.names ++
    "], active_plugins: \x7b" ++ quotedNames registry.active ++ "\x7d \x7d"

end Registry

end QueryLint
