import QueryLint.Session.Basic

/-!
# Plugins in a session

Plugins are registered if they accept the version of the plugin interface that
the session provides.  The active ones are called in the order of their names:
before the first unit, for each unit, and after the last one.
-/

namespace QueryLint

def pluginTarget : String :=
  "sqllint::plugin::handler"

/-- How a call to a plugin ends: its error or none, the plugin and the sinks
after it, and the records it leaves. -/
structure Plugin.Answer where
  crashed : Bool
  error? : Option PluginError
  plugin : Plugin
  sinks : Sinks
  records : List Log.Record

/-- A call to a plugin. -/
def Plugin.answer (plugin : Plugin) (call : PluginCall) (sinks : Sinks) :
    Plugin.Answer :=
  match plugin with
  | .custom _ _ respond => ⟨false, respond call, plugin, sinks, []⟩
  | .dump state outlet =>
      let answered (outcome : Dump.Outcome) (state : Dump) (sinks : Sinks)
          (records : List Log.Record) : Plugin.Answer :=
        match outcome with
        | .done => ⟨false, none, .dump state outlet, sinks, records⟩
        | .failed error =>
            ⟨false, some error, .dump state outlet, sinks, records⟩
        | .crashed => ⟨true, none, .dump state outlet, sinks, records⟩
      match call with
      | .prepare => answered .done state.prepare sinks []
      | .activate view =>
          let (outcome, after, sink) := state.activate (sinks.get outlet) view
          answered outcome after (sinks.set outlet sink) []
      | .cleanup =>
          let (outcome, after, records) := state.cleanup (sinks.get outlet)
          answered outcome after sinks records

namespace Work

/-- Changes the registry, unless it refuses. -/
def changeRegistry (change : Registry → Except PluginError Registry) :
    Work (Except PluginError Unit) := do
  let session ← Work.session
  match change session.registry with
  | .error error => return .error error
  | .ok registry =>
      modify fun session => { session with registry := registry }
      return .ok ()

/-- Registers a plugin that accepts the session's version of the interface. -/
def register (plugin : Plugin) : Work (Except PluginError Unit) := do
  let session ← Work.session
  if plugin.accepts session.apiVersion then
    match ← changeRegistry fun registry => registry.register plugin with
    | .error error => return .error error
    | .ok () =>
        note [⟨.trace, pluginTarget,
          s!"Registered plugin '{plugin.name}' v{plugin.info.version}"⟩]
        return .ok ()
  else
    return .error (.versionIncompatible
      (s!"Plugin '{plugin.name}' targets API version {plugin.info.apiVersion}, " ++
        s!"system provides {session.apiVersion}"))

/-- Registers plugins that come with the tool, except those excluded and those
that do not accept the interface; the value counts the registered ones. -/
def discoverAmong (excludes : List String) :
    List Plugin → (count : Nat) → Work (Except PluginError Nat)
  | [], count => do
      note [⟨.debug, pluginTarget, s!"Discovered {count} builtin plugin(s)"⟩]
      return .ok count
  | plugin :: others, count => do
      if excludes.contains plugin.name then
        note [⟨.debug, pluginTarget,
          s!"Builtin plugin '{plugin.name}' excluded"⟩]
        discoverAmong excludes others count
      else
        match ← register plugin with
        | .error (.versionIncompatible explanation) =>
            note [⟨.warn, pluginTarget,
              s!"Skipping builtin plugin '{plugin.name}': " ++
                (PluginError.versionIncompatible explanation).message⟩]
            discoverAmong excludes others count
        | .error error => return .error error
        | .ok () =>
            if plugin.info.autoActive then
              match ← changeRegistry fun registry =>
                registry.activate plugin.name with
              | .error error => return .error error
              | .ok () => discoverAmong excludes others (count + 1)
            else discoverAmong excludes others (count + 1)

/-- Registers the plugins that come with the tool. -/
def discover (excludes : List String) : Work (Except PluginError Nat) :=
  discoverAmong excludes Plugin.builtins 0

/-- Makes plugins active by name, up to the first name that is not
registered. -/
def activateNames : List String → Work (Except PluginError Unit)
  | [] => return .ok ()
  | name :: others => do
      match ← changeRegistry fun registry => registry.activate name with
      | .error error => return .error error
      | .ok () =>
          note [⟨.debug, pluginTarget, s!"Plugin '{name}' activated"⟩]
          activateNames others

/-- Registers plugins in order and makes those marked active, up to the first
error. -/
def enroll : List (Plugin × Bool) → Work (Except PluginError Unit)
  | [] => return .ok ()
  | (plugin, isActive) :: others => do
      match ← register plugin with
      | .error error => return .error error
      | .ok () =>
          match ← activateNames (if isActive then [plugin.name] else []) with
          | .error error => return .error error
          | .ok () => enroll others

/-- Calls the registered plugin of a name; a name without plugin answers
nothing. -/
def callPlugin (name : String) (call : PluginCall) :
    Work (Option PluginError) := do
  let session ← Work.session
  match session.registry.find? name with
  | none => return none
  | some plugin =>
      enter [.called plugin call]
      let answer := plugin.answer call session.sinks
      modify fun session =>
        { session with
          registry := session.registry.update name answer.plugin
          sinks := answer.sinks }
      note answer.records
      if answer.crashed then crash else return answer.error?

/-- Calls plugins in order, up to the first that fails. -/
def callUntilFailure (call : PluginCall) :
    List String → Work (Option (String × PluginError))
  | [] => return none
  | name :: others => do
      match ← callPlugin name call with
      | some error => return some (name, error)
      | none => callUntilFailure call others

/-- Prepares the active plugins for units, up to the first that fails. -/
def prepareActive : Work (Except PluginError Unit) := do
  let session ← Work.session
  match ← callUntilFailure .prepare session.registry.active with
  | some (name, error) => return .error (.load name error.message)
  | none => return .ok ()

/-- Shows a unit to the active plugins, up to the first that fails. -/
def activateAll (view : UnitView) : Work (Except PluginError Unit) := do
  let session ← Work.session
  match ← callUntilFailure (.activate view) session.registry.active with
  | some (_, error) => return .error error
  | none => return .ok ()

/-- Cleans plugins up, all of them, and remembers the first error. -/
def cleanupAll :
    List String → Option PluginError → Work (Except PluginError Unit)
  | [], none => return .ok ()
  | [], some error => return .error error
  | name :: others, first? => do
      match ← callPlugin name .cleanup with
      | none => cleanupAll others first?
      | some error =>
          note [⟨.warn, pluginTarget,
            s!"Cleanup of plugin '{name}' failed: {error.message}"⟩]
          cleanupAll others (first?.orElse fun _ => some error)

def cleanup : Work (Except PluginError Unit) := do
  let session ← Work.session
  cleanupAll session.registry.active none

end Work

end QueryLint
