import QueryLint.Plugin.Host

/-!
# Calls to a plugin

A call to the plugin of a name is decided by the plugin that is registered under
it and by the sinks.  A name without plugin is passed over.
-/

namespace QueryLint

namespace Work

/-- What a call comes to, given the plugin for which the name stands. -/
private def callFound (name : String) (call : PluginCall) (session : Session) :
    Option Plugin → Work (Option PluginError)
  | none => return none
  | some plugin => do
      enter [.called plugin call]
      let answer := plugin.answer call session.sinks
      modify fun session =>
        { session with
          registry := session.registry.update name answer.plugin
          sinks := answer.sinks }
      note answer.records
      if answer.crashed then crash else return answer.error?

private theorem callPlugin_eq_callFound (name : String) (call : PluginCall)
    (session : Session) :
    callPlugin name call session =
      callFound name call session (session.registry.find? name) session := rfl

variable {session : Session} {name : String}

theorem callPlugin_of_missing (missing : session.registry.find? name = none)
    (call : PluginCall) :
    callPlugin name call session = ⟨.value none, session, []⟩ := by
  rw [callPlugin_eq_callFound, missing]
  rfl

theorem callPlugin_of_found {plugin : Plugin}
    (found : session.registry.find? name = some plugin) (call : PluginCall) :
    let answer := plugin.answer call session.sinks
    callPlugin name call session =
      ⟨if answer.crashed then .crash else .value answer.error?,
        { session with
          registry := session.registry.update name answer.plugin
          sinks := answer.sinks },
        .called plugin call :: answer.records.map .noted⟩ := by
  rw [callPlugin_eq_callFound, found]
  simp only [callFound]
  have noted (records : List Log.Record) : records.map Entry.noted ++ [] =
      records.map .noted :=
    List.append_nil _
  cases (plugin.answer call session.sinks).crashed with
  | true => exact congrArg (fun records => Done.mk _ _ (_ :: records)) (noted _)
  | false =>
      exact congrArg (fun records => Done.mk _ _ (_ :: records)) (noted _)

end Work

end QueryLint
