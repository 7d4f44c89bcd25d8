import Mathlib.Logic.Relation
import QueryLint.Proofs.Plugin.Preparation

/-!
# What calls to plugins leave as it is

A call may change the plugin and the sinks.  The names of the registry and the
active ones stay, and so does what a plugin says of itself and which versions it
accepts.
-/

namespace QueryLint

namespace Plugin

/-- Calls turn the one plugin into the other. -/
def Becomes : Plugin → Plugin → Prop :=
  Relation.ReflTransGen fun before after =>
    ∃ call sinks, (before.answer call sinks).plugin = after

theorem answer_plugin (plugin : Plugin) (call : PluginCall) (sinks : Sinks) :
    (plugin.answer call sinks).plugin.info = plugin.info ∧
      (plugin.answer call sinks).plugin.accepts = plugin.accepts := by
  cases plugin with
  | custom info accepts respond => exact ⟨rfl, rfl⟩
  | dump state outlet =>
      cases call with
      | prepare => exact ⟨rfl, rfl⟩
      | activate view =>
          simp only [answer]
          cases (state.activate (sinks.get outlet) view).1 <;> exact ⟨rfl, rfl⟩
      | cleanup =>
          simp only [answer]
          cases (state.cleanup (sinks.get outlet)).1 <;> exact ⟨rfl, rfl⟩

theorem Becomes.kept {before after : Plugin} (becomes : before.Becomes after) :
    after.info = before.info ∧ after.accepts = before.accepts := by
  induction becomes with
  | refl => exact ⟨rfl, rfl⟩
  | tail _ called ih =>
      obtain ⟨call, sinks, rfl⟩ := called
      obtain ⟨info, accepts⟩ := answer_plugin _ call sinks
      exact ⟨info.trans ih.1, accepts.trans ih.2⟩

theorem rel_becomes_refl (plugin? : Option Plugin) :
    Option.Rel Becomes plugin? plugin? := by
  cases plugin? with
  | none => exact .none
  | some plugin => exact .some .refl

theorem rel_becomes_trans {first? second? third? : Option Plugin}
    (earlier : Option.Rel Becomes first? second?)
    (later : Option.Rel Becomes second? third?) :
    Option.Rel Becomes first? third? := by
  cases earlier with
  | none => exact later
  | some earlier =>
      cases later with
      | some later => exact .some (earlier.trans later)

end Plugin

namespace Session

/-- Nothing but calls to plugins has happened to the registry. -/
structure OnlyCalled (before after : Session) : Prop where
  version : after.apiVersion = before.apiVersion
  active : after.registry.active = before.registry.active
  names : before.registry.names.Pairwise (· < ·) →
    after.registry.names = before.registry.names
  plugins : ∀ name,
    Option.Rel Plugin.Becomes (before.registry.find? name)
      (after.registry.find? name)

theorem OnlyCalled.refl (session : Session) : session.OnlyCalled session :=
  ⟨rfl, rfl, fun _ => rfl, fun _ => Plugin.rel_becomes_refl _⟩

theorem OnlyCalled.trans {first second third : Session}
    (earlier : first.OnlyCalled second) (later : second.OnlyCalled third) :
    first.OnlyCalled third := by
  constructor
  · exact later.version.trans earlier.version
  · exact later.active.trans earlier.active
  · intro ascending
    have names := earlier.names ascending
    exact (later.names (names ▸ ascending)).trans names
  · exact fun name =>
      Plugin.rel_becomes_trans (earlier.plugins name) (later.plugins name)

end Session

namespace Work

variable {α β : Type}

/-- The work changes the registry by calls to plugins only. -/
def OnlyCalls (work : Work α) : Prop :=
  ∀ session : Session, session.OnlyCalled (work session).session

theorem onlyCalls_pure (value : α) : OnlyCalls (Pure.pure value : Work α) :=
  fun session => .refl session

theorem onlyCalls_note (records : List Log.Record) : OnlyCalls (note records) :=
  fun session => .refl session

theorem OnlyCalls.bind {first : Work α} {next : α → Work β}
    (earlier : OnlyCalls first) (later : ∀ value, OnlyCalls (next value)) :
    OnlyCalls (first >>= next) := by
  intro session
  have called := earlier session
  change session.OnlyCalled (Work.bind first next session).session
  unfold Work.bind
  split
  · next done => rwa [done] at called
  · next done =>
      rw [done] at called
      exact called.trans (later _ _)

theorem OnlyCalls.ofSession {next : Session → Work β}
    (later : ∀ session, OnlyCalls (next session)) :
    OnlyCalls (Work.session >>= next) :=
  OnlyCalls.bind (fun session => .refl session) later

theorem onlyCalls_callPlugin (name : String) (call : PluginCall) :
    OnlyCalls (callPlugin name call) := by
  intro session
  cases found : session.registry.find? name with
  | none =>
      rw [callPlugin_of_missing found]
      exact .refl session
  | some plugin =>
      rw [callPlugin_of_found found]
      constructor
      · rfl
      · rfl
      · intro ascending
        have present : Ordered.has name session.registry.plugins = true :=
          congrArg Option.isSome found
        exact Ordered.keys_put_of_mem ascending
          (Ordered.has_iff_mem_keys.mp present) _
      · intro other
        rw [Registry.find?_update]
        split_ifs with same
        · rw [same, found]
          exact .some (.single ⟨call, session.sinks, rfl⟩)
        · exact Plugin.rel_becomes_refl _

theorem onlyCalls_callUntilFailure (call : PluginCall) (names : List String) :
    OnlyCalls (callUntilFailure call names) := by
  induction names with
  | nil => exact onlyCalls_pure _
  | cons name others ih =>
      refine (onlyCalls_callPlugin name call).bind fun error? => ?_
      cases error? with
      | none => exact ih
      | some error => exact onlyCalls_pure _

theorem onlyCalls_prepareActive : OnlyCalls prepareActive := by
  refine .ofSession fun session =>
    (onlyCalls_callUntilFailure _ _).bind fun failed? => ?_
  cases failed? <;> exact onlyCalls_pure _

theorem onlyCalls_activateAll (view : UnitView) :
    OnlyCalls (activateAll view) := by
  refine .ofSession fun session =>
    (onlyCalls_callUntilFailure _ _).bind fun failed? => ?_
  cases failed? <;> exact onlyCalls_pure _

theorem onlyCalls_cleanupAll (names : List String)
    (first? : Option PluginError) :
    OnlyCalls (cleanupAll names first?) := by
  induction names generalizing first? with
  | nil => cases first? <;> exact onlyCalls_pure _
  | cons name others ih =>
      refine (onlyCalls_callPlugin name .cleanup).bind fun error? => ?_
      cases error? with
      | none => exact ih first?
      | some error => exact (onlyCalls_note _).bind fun _ => ih _

theorem onlyCalls_cleanup : OnlyCalls cleanup :=
  .ofSession fun session => onlyCalls_cleanupAll session.registry.active none

end Work

end QueryLint
