import QueryLint.Proofs.Output.Writing
import QueryLint.Proofs.Plugin.Activation
import QueryLint.Proofs.Plugin.Calling
import QueryLint.Proofs.Plugin.Discovery

/-!
# Plugins before the first unit and after the last one

Discovery and activation keep the registry well-formed, and register nothing but
the plugins of a list.  Preparing the active plugins changes the registry alone;
a plugin that comes with the tool takes every unit from then on, as long as
standard output takes what is written.  Cleaning up comes to an end in every
session.
-/

namespace QueryLint

namespace Registry

theorem find?_update (registry : Registry) (name other : String)
    (plugin : Plugin) :
    (registry.update name plugin).find? other =
      if other = name then some plugin else registry.find? other := by
  by_cases same : other = name
  · subst same
    simp [update, find?]
  · simp [update, find?, Ordered.find?_put_of_ne same, same]

/-- The registry is well-formed and has plugins of the list only. -/
structure Lists (plugins : List Plugin) (registry : Registry) : Prop where
  wellFormed : registry.WellFormed
  listed : ∀ name plugin, registry.find? name = some plugin → plugin ∈ plugins

namespace Lists

variable {plugins : List Plugin} {registry after : Registry}

theorem empty (plugins : List Plugin) : Registry.empty.Lists plugins :=
  ⟨wellFormed_empty, nofun⟩

theorem register (lists : registry.Lists plugins) {plugin : Plugin}
    (member : plugin ∈ plugins)
    (registered : registry.register plugin = .ok after) :
    after.Lists plugins := by
  refine ⟨lists.wellFormed.register registered, ?_⟩
  unfold Registry.register at registered
  split_ifs at registered
  cases registered
  intro name other found
  have filed : (registry.update plugin.name plugin).find? name = some other :=
    found
  rw [find?_update] at filed
  split_ifs at filed
  · cases filed
    exact member
  · exact lists.listed name other filed

theorem activate (lists : registry.Lists plugins) {name : String}
    (activated : registry.activate name = .ok after) : after.Lists plugins := by
  refine ⟨lists.wellFormed.activate activated, ?_⟩
  unfold Registry.activate at activated
  split_ifs at activated
  cases activated
  exact lists.listed

end Lists

end Registry

namespace Plugin

/-- The plugin after it has been prepared. -/
def prepared : Plugin → Plugin
  | dump state outlet => dump state.prepare outlet
  | custom info accepts respond => custom info accepts respond

/-- Preparing the plugin does not fail. -/
def Prepares : Plugin → Prop
  | dump .. => True
  | custom _ _ respond => respond .prepare = none

variable {plugin : Plugin}

theorem Prepares.answer (prepares : plugin.Prepares) (sinks : Sinks) :
    plugin.answer .prepare sinks =
      ⟨false, none, plugin.prepared, sinks, []⟩ := by
  cases plugin with
  | dump state outlet => rfl
  | custom info accepts respond =>
      have silent : respond .prepare = none := prepares
      rw [Plugin.answer, silent]
      rfl

theorem name_prepared (plugin : Plugin) :
    plugin.prepared.name = plugin.name := by
  cases plugin <;> rfl

theorem prepared_prepared (plugin : Plugin) :
    plugin.prepared.prepared = plugin.prepared := by
  cases plugin <;> rfl

theorem prepares_prepared_iff : plugin.prepared.Prepares ↔ plugin.Prepares := by
  cases plugin <;> exact Iff.rfl

/-- Flushing a sink may fail and does not crash. -/
theorem crashed_cleanup (plugin : Plugin) (sinks : Sinks) :
    (plugin.answer .cleanup sinks).crashed = false := by
  cases plugin with
  | custom info accepts respond => rfl
  | dump state outlet =>
      have flushed := (sinks.get outlet).flush_ne_crashed
      simp only [answer, Dump.cleanup]
      cases result : (sinks.get outlet).flush with
      | done => rfl
      | refused reason => rfl
      | crashed => exact absurd result flushed

theorem prepares_of_mem_builtins (member : plugin ∈ builtins) :
    plugin.Prepares := by
  obtain rfl := List.mem_singleton.mp member
  trivial

/-- A prepared plugin that comes with the tool takes a unit if standard output
does. -/
theorem shown_prepared_builtin (member : plugin ∈ builtins)
    {devices : Outlet → Device}
    (prints : (devices .standard).lineResult = .done) (view : UnitView) :
    (plugin.prepared.shown devices view).1 = .done := by
  obtain rfl := List.mem_singleton.mp member
  simp [prepared, newDump, Dump.prepare, shown, Dump.respond, prints]

end Plugin

theorem Session.answers_of_prepared_builtin {session : Session}
    {plugin : Plugin} (member : plugin ∈ Plugin.builtins) {name : String}
    (found : session.registry.find? name = some plugin.prepared)
    (prints : (session.sinks.device .standard).lineResult = .done)
    (view : UnitView) :
    session.Answers name view none := by
  obtain ⟨crashed, error, -⟩ :=
    plugin.prepared.answer_activate view session.sinks
  have taken := Plugin.shown_prepared_builtin member prints view
  rw [taken] at crashed error
  exact ⟨plugin.prepared, found, crashed, error⟩

namespace Work

/-- The work leaves a registry with the property if it finds one. -/
def Keeps {α : Type} (holds : Registry → Prop) (work : Work α) : Prop :=
  ∀ session : Session, holds session.registry →
    holds (work session).session.registry

namespace Keeps

variable {α β : Type} {holds : Registry → Prop} {first : Work α}
  {next : α → Work β}

theorem pure (value : α) : Keeps holds (Pure.pure value : Work α) :=
  fun _ held => held

theorem note (records : List Log.Record) : Keeps holds (Work.note records) :=
  fun _ held => held

theorem bind (earlier : Keeps holds first)
    (later : ∀ value, Keeps holds (next value)) :
    Keeps holds (first >>= next) := by
  intro session held
  have kept := earlier session held
  change holds (Work.bind first next session).session.registry
  unfold Work.bind
  split
  · next done => rwa [done] at kept
  · next done =>
      rw [done] at kept
      exact later _ _ kept

theorem ofSession {next : Session → Work β}
    (later : ∀ session, Keeps holds (next session)) :
    Keeps holds (Work.session >>= next) :=
  bind (fun _ held => held) later

theorem changeRegistry {change : Registry → Except PluginError Registry}
    (changes : ∀ registry after, holds registry → change registry = .ok after →
      holds after) :
    Keeps holds (Work.changeRegistry change) := by
  intro session held
  cases changed : change session.registry with
  | error error =>
      rw [(registers_changeRegistry_of_error changed).session]
      exact held
  | ok registry =>
      rw [(registers_changeRegistry changed).session]
      exact changes _ _ held changed

end Keeps

section

variable {plugins : List Plugin}

theorem keeps_register {plugin : Plugin} (member : plugin ∈ plugins) :
    Keeps (Registry.Lists plugins) (register plugin) := by
  refine Keeps.ofSession fun session => ?_
  split_ifs
  · refine (Keeps.changeRegistry fun _ _ lists => lists.register member).bind
      fun result => ?_
    cases result with
    | error error => exact Keeps.pure _
    | ok => exact (Keeps.note _).bind fun _ => Keeps.pure _
  · exact Keeps.pure _

theorem keeps_discoverAmong (excludes : List String) {others : List Plugin}
    (members : ∀ plugin ∈ others, plugin ∈ plugins) (count : Nat) :
    Keeps (Registry.Lists plugins) (discoverAmong excludes others count) := by
  induction others generalizing count with
  | nil => exact (Keeps.note _).bind fun _ => Keeps.pure _
  | cons plugin others ih =>
      obtain ⟨member, members⟩ := List.forall_mem_cons.mp members
      have activates : Keeps (Registry.Lists plugins)
          (changeRegistry fun registry => registry.activate plugin.name) :=
        Keeps.changeRegistry fun _ _ lists => lists.activate
      by_cases excluded : excludes.contains plugin.name = true
      · rw [discoverAmong, if_pos excluded]
        exact (Keeps.note _).bind fun _ => ih members count
      · rw [discoverAmong, if_neg excluded]
        refine (keeps_register member).bind fun result => ?_
        split
        · exact (Keeps.note _).bind fun _ => ih members count
        · exact Keeps.pure _
        · split_ifs
          · refine activates.bind fun result => ?_
            cases result with
            | error error => exact Keeps.pure _
            | ok => exact ih members (count + 1)
          · exact ih members (count + 1)

theorem keeps_discover (excludes : List String) :
    Keeps (Registry.Lists Plugin.builtins) (discover excludes) :=
  keeps_discoverAmong excludes (fun _ member => member) 0

theorem keeps_activateNames (names : List String) :
    Keeps (Registry.Lists plugins) (activateNames names) := by
  induction names with
  | nil => exact Keeps.pure _
  | cons name others ih =>
      refine (Keeps.changeRegistry fun _ _ lists => lists.activate).bind
        fun result => ?_
      cases result with
      | error error => exact Keeps.pure _
      | ok => exact (Keeps.note _).bind fun _ => ih

end

variable {session : Session}

theorem registers_prepare {name : String} {plugin : Plugin}
    (found : session.registry.find? name = some plugin)
    (prepares : plugin.Prepares) :
    Registers (callPlugin name .prepare) session none
      (session.registry.update name plugin.prepared) := by
  have called := callPlugin_of_found found .prepare
  rw [prepares.answer] at called
  exact ⟨congrArg Done.ending called, congrArg Done.session called⟩

/-- Preparing plugins changes those of the names, and nothing else. -/
theorem exists_registers_prepare (names : List String)
    (wellFormed : session.registry.WellFormed)
    (prepares : ∀ name plugin, session.registry.find? name = some plugin →
      plugin.Prepares) :
    ∃ registry, Registers (callUntilFailure .prepare names) session none
        registry ∧
      registry.WellFormed ∧ registry.active = session.registry.active ∧
      ∀ name, registry.find? name =
        if name ∈ names then (session.registry.find? name).map Plugin.prepared
        else session.registry.find? name := by
  induction names generalizing session with
  | nil =>
      exact ⟨session.registry, registers_pure none session, wellFormed,
        rfl, by simp⟩
  | cons name others ih =>
      cases found : session.registry.find? name with
      | none =>
          obtain ⟨registry, rest, formed, active, finds⟩ :=
            ih wellFormed prepares
          have called := callPlugin_of_missing found .prepare
          have first : Registers
              (callPlugin name .prepare) session none session.registry :=
            ⟨congrArg Done.ending called, congrArg Done.session called⟩
          refine ⟨registry, first.bind rest, formed, active, fun other => ?_⟩
          rw [finds]
          by_cases same : other = name
          · subst same
            simp [found]
          · simp [same]
      | some plugin =>
          have filed : plugin.prepared.name = name :=
            plugin.name_prepared.trans (wellFormed.named name plugin found)
          let prepared := session.registry.update name plugin.prepared
          have formed : prepared.WellFormed := by
            have updated := wellFormed.update plugin.prepared
            rwa [filed] at updated
          have preparesLater : ∀ other later,
              prepared.find? other = some later →
              later.Prepares := by
            intro other later foundLater
            rw [Registry.find?_update] at foundLater
            split_ifs at foundLater
            · cases foundLater
              exact Plugin.prepares_prepared_iff.mpr
                (prepares name plugin found)
            · exact prepares other later foundLater
          obtain ⟨registry, rest, formed, active, finds⟩ :=
            @ih { session with registry := prepared } formed preparesLater
          refine ⟨registry,
            (registers_prepare found (prepares name plugin found)).bind rest,
            formed, active, fun other => ?_⟩
          rw [finds, Registry.find?_update]
          by_cases same : other = name
          · subst same
            simp [found, Plugin.prepared_prepared]
          · simp [same]

/-- The active plugins are prepared, and nothing else is changed. -/
theorem exists_registers_prepareActive
    (wellFormed : session.registry.WellFormed)
    (prepares : ∀ name plugin, session.registry.find? name = some plugin →
      plugin.Prepares) :
    ∃ registry, Registers prepareActive session (.ok ()) registry ∧
      registry.WellFormed ∧ registry.active = session.registry.active ∧
      ∀ name ∈ registry.active,
        registry.find? name = (session.registry.find? name).map
          Plugin.prepared := by
  obtain ⟨registry, called, formed, active, finds⟩ :=
    exists_registers_prepare session.registry.active wellFormed prepares
  refine ⟨registry, ?_, formed, active, fun name member => ?_⟩
  · exact Registers.ofSession (called.bind (registers_pure _ _))
  · rw [active] at member
    rw [finds, if_pos member]

/-- Once they are prepared, the plugins that come with the tool take every
unit. -/
theorem exists_registers_prepareBuiltins
    (lists : session.registry.Lists Plugin.builtins)
    (prints : (session.sinks.device .standard).lineResult = .done) :
    ∃ registry, Registers prepareActive session (.ok ()) registry ∧
      registry.WellFormed ∧
      ∀ view, ∀ name ∈ registry.active,
        { session with registry := registry }.Answers name view none := by
  obtain ⟨registry, prepared, wellFormed, active, finds⟩ :=
    exists_registers_prepareActive lists.wellFormed fun name plugin found =>
      Plugin.prepares_of_mem_builtins (lists.listed name plugin found)
  refine ⟨registry, prepared, wellFormed, fun view name member => ?_⟩
  have known := lists.wellFormed.registered name (active ▸ member)
  obtain ⟨plugin, found⟩ := Option.isSome_iff_exists.mp known
  have present : registry.find? name = some plugin.prepared :=
    (finds name member).trans (congrArg (Option.map Plugin.prepared) found)
  let ready : Session := { session with registry := registry }
  have takes := @Session.answers_of_prepared_builtin ready plugin
  exact takes (lists.listed name plugin found) present prints view

/-- The work ends with a value in every session. -/
def Returns {α : Type} (work : Work α) : Prop :=
  ∀ session : Session, ∃ value, (work session).ending = .value value

theorem Returns.bind {α β : Type} {first : Work α} {next : α → Work β}
    (earlier : Returns first) (later : ∀ value, Returns (next value)) :
    Returns (first >>= next) := by
  intro session
  obtain ⟨value, ending⟩ := earlier session
  rw [bind_of_value ending]
  exact later value _

theorem returns_pure {α : Type} (value : α) :
    Returns (Pure.pure value : Work α) :=
  fun _ => ⟨value, rfl⟩

theorem returns_note (records : List Log.Record) : Returns (note records) :=
  fun _ => ⟨(), rfl⟩

theorem returns_cleanupPlugin (name : String) :
    Returns (callPlugin name .cleanup) := by
  intro session
  cases found : session.registry.find? name with
  | none =>
      exact ⟨none, congrArg Done.ending (callPlugin_of_missing found .cleanup)⟩
  | some plugin =>
      rw [callPlugin_of_found found, plugin.crashed_cleanup]
      exact ⟨_, rfl⟩

theorem returns_cleanupAll (names : List String) (first? : Option PluginError) :
    Returns (cleanupAll names first?) := by
  induction names generalizing first? with
  | nil =>
      cases first? with
      | none => exact returns_pure _
      | some error => exact returns_pure _
  | cons name others ih =>
      refine (returns_cleanupPlugin name).bind fun error? => ?_
      cases error? with
      | none => exact ih first?
      | some error => exact (returns_note _).bind fun _ => ih _

theorem returns_cleanup : Returns cleanup :=
  fun session => returns_cleanupAll session.registry.active none session

end Work

end QueryLint
