import QueryLint.Plugin.Host
import QueryLint.Proofs.Plugin.Registry
import QueryLint.Proofs.Session.Steady

/-!
# Showing a unit to the active plugins

What a plugin makes of a unit is decided by the plugin, the unit and the device
to which the plugin writes, and not by the units that it has been shown before.
The active plugins are called in order up to the first that fails.
-/

namespace QueryLint

namespace Dump

/-- The error with which the plugin ends, if any. -/
def Outcome.error? : Outcome → Option PluginError
  | failed error => some error
  | _ => none

def Outcome.crashes : Outcome → Bool
  | crashed => true
  | _ => false

/-- What the plugin makes of a unit when it writes to the device. -/
def respond (dump : Dump) (device : Device) : Outcome × Dump :=
  if dump.initialized then
    match device.lineResult with
    | .done => (.done, { dump with dumped := dump.dumped + 1 })
    | .refused reason => (.failed (failure "activate" reason), dump)
    | .crashed => (.crashed, dump)
  else (.failed (failure "activate" "Plugin not initialized"), dump)

private theorem newline_mem_render (view : UnitView) :
    '\n' ∈ (render view).toList := by
  have ending : '\n' ∈ (toString " suppression directives) ---\n").toList := by
    decide
  simp only [render, header, String.toList_append, List.mem_append]
  exact Or.inl (Or.inr ending)

theorem activate_respond (dump : Dump) (sink : Sink) (view : UnitView) :
    (dump.activate sink view).1 = (dump.respond sink.device).1 ∧
      (dump.activate sink view).2.1 = (dump.respond sink.device).2 := by
  have written := sink.write_result (newline_mem_render view)
  unfold activate respond
  split_ifs with initialized
  · split
    · next result => simp [← written, result]
    · next result => simp [← written, result]
    · next result => simp [← written, result]
  · exact ⟨rfl, rfl⟩

theorem activate_device (dump : Dump) (sink : Sink) (view : UnitView) :
    (dump.activate sink view).2.2.device = sink.device := by
  have written := sink.write_device (render view)
  unfold activate
  split_ifs
  · split
    · next result => rw [← written, result]
    · next result => rw [← written, result]
    · next result => rw [← written, result]
  · rfl

theorem respond_initialized (dump : Dump) (device : Device) :
    (dump.respond device).2.initialized = dump.initialized := by
  unfold respond
  split_ifs
  · split <;> rfl
  · rfl

/-- The count of units does not decide how the plugin ends. -/
theorem respond_outcome_congr {dump other : Dump}
    (initialized : dump.initialized = other.initialized) (device : Device) :
    (dump.respond device).1 = (other.respond device).1 := by
  unfold respond
  rw [initialized]
  split_ifs
  · split <;> rfl
  · rfl

end Dump

namespace Plugin

/-- What a plugin makes of a unit when it writes to the devices. -/
def shown (plugin : Plugin) (devices : Outlet → Device) (view : UnitView) :
    Dump.Outcome × Plugin :=
  match plugin with
  | .dump state outlet =>
      ((state.respond (devices outlet)).1,
        .dump (state.respond (devices outlet)).2 outlet)
  | .custom info accepts respond =>
      (match respond (.activate view) with
        | none => .done
        | some error => .failed error,
        .custom info accepts respond)

theorem shown_settled (plugin : Plugin) (devices : Outlet → Device)
    (view : UnitView) :
    (plugin.shown devices view).2.settled = plugin.settled := by
  cases plugin with
  | dump state outlet => simp [shown, settled, state.respond_initialized]
  | custom info accepts respond => rfl

theorem shown_congr {plugin other : Plugin}
    (settled : plugin.settled = other.settled) (devices : Outlet → Device)
    (view : UnitView) :
    (plugin.shown devices view).1 = (other.shown devices view).1 := by
  cases plugin with
  | dump state outlet =>
      cases other with
      | dump otherState otherOutlet =>
          simp only [Plugin.settled, Plugin.dump.injEq,
            Dump.mk.injEq] at settled
          obtain ⟨⟨initialized, -⟩, rfl⟩ := settled
          exact Dump.respond_outcome_congr initialized (devices outlet)
      | custom => cases settled
  | custom info accepts respond =>
      cases other with
      | dump => cases settled
      | custom => cases settled; rfl

theorem name_of_settled {plugin other : Plugin}
    (settled : plugin.settled = other.settled) : plugin.name = other.name := by
  cases plugin with
  | dump state outlet =>
      cases other with
      | dump => rfl
      | custom => cases settled
  | custom info accepts respond =>
      cases other with
      | dump => cases settled
      | custom => cases settled; rfl

/-- The answer to a unit, up to what the plugin has written. -/
theorem answer_activate (plugin : Plugin) (view : UnitView) (sinks : Sinks) :
    (plugin.answer (.activate view) sinks).crashed =
        (plugin.shown sinks.device view).1.crashes ∧
      (plugin.answer (.activate view) sinks).error? =
        (plugin.shown sinks.device view).1.error? ∧
      (plugin.answer (.activate view) sinks).plugin =
        (plugin.shown sinks.device view).2 ∧
      (plugin.answer (.activate view) sinks).sinks.device = sinks.device ∧
      (plugin.answer (.activate view) sinks).records = [] := by
  cases plugin with
  | custom info accepts respond =>
      cases answered : respond (.activate view) <;>
        simp [answer, shown, answered, Dump.Outcome.error?,
          Dump.Outcome.crashes]
  | dump state outlet =>
      have kept : (sinks.set outlet
          (state.activate (sinks.get outlet) view).2.2).device = sinks.device :=
        Sinks.device_set_of_same (state.activate_device (sinks.get outlet) view)
      obtain ⟨outcome, after⟩ := state.activate_respond (sinks.get outlet) view
      change _ = (state.respond (sinks.device outlet)).1 at outcome
      change _ = (state.respond (sinks.device outlet)).2 at after
      simp only [answer, shown, ← outcome, ← after]
      cases (state.activate (sinks.get outlet) view).1 with
      | done => exact ⟨rfl, rfl, rfl, kept, rfl⟩
      | failed error => exact ⟨rfl, rfl, rfl, kept, rfl⟩
      | crashed => exact ⟨rfl, rfl, rfl, kept, rfl⟩

end Plugin

theorem Registry.update_settled
    {registry : Registry} {name : String} {plugin after : Plugin}
    (found : registry.find? name = some plugin)
    (settled : after.settled = plugin.settled) (other : String) :
    ((registry.update name after).find? other).map Plugin.settled =
      (registry.find? other).map Plugin.settled := by
  by_cases same : other = name
  · subst other
    simp [update, find?, settled,
      show Ordered.find? name registry.plugins = _ from found]
  · simp [update, find?, Ordered.find?_put_of_ne same]

namespace Session

/-- Shown the unit now, the plugin of the name returns and answers with the
error or none. -/
def Answers (session : Session) (name : String) (view : UnitView)
    (error? : Option PluginError) : Prop :=
  ∃ plugin, session.registry.find? name = some plugin ∧
    (plugin.answer (.activate view) session.sinks).crashed = false ∧
    (plugin.answer (.activate view) session.sinks).error? = error?

variable {before after : Session}

theorem Steady.answers (steady : before.Steady after) {name : String}
    {view : UnitView} {error? : Option PluginError}
    (answers : before.Answers name view error?) :
    after.Answers name view error? := by
  obtain ⟨plugin, found, returns, error⟩ := answers
  have kept := steady.plugins name
  rw [found] at kept
  obtain ⟨later, laterFound, settled⟩ := Option.map_eq_some_iff.mp kept
  have outcome : (later.shown after.sinks.device view).1 =
      (plugin.shown before.sinks.device view).1 := by
    rw [steady.devices]
    exact Plugin.shown_congr settled _ view
  obtain ⟨crashed, answered, -⟩ := plugin.answer_activate view before.sinks
  obtain ⟨laterCrashed, laterAnswered, -⟩ :=
    later.answer_activate view after.sinks
  refine ⟨later, laterFound, ?_, ?_⟩
  · rw [laterCrashed, outcome, ← crashed, returns]
  · rw [laterAnswered, outcome, ← answered, error]

theorem Steady.wellFormed (steady : before.Steady after)
    (wellFormed : before.registry.WellFormed) : after.registry.WellFormed := by
  constructor
  · intro name plugin found
    have kept := steady.plugins name
    rw [found] at kept
    obtain ⟨earlier, earlierFound, settled⟩ :=
      Option.map_eq_some_iff.mp kept.symm
    exact (Plugin.name_of_settled settled.symm).trans
      (wellFormed.named name earlier earlierFound)
  · exact steady.active ▸ wellFormed.ascending
  · intro name member
    have kept := congrArg Option.isSome (steady.plugins name)
    simp only [Option.isSome_map] at kept
    rw [steady.active] at member
    exact kept.trans (wellFormed.registered name member)

end Session

/-- A session in which the dump plugin is ready and no sink is broken. -/
def Session.dumping : Session :=
  { Session.start QueryLint.apiVersion .report .fresh ⟨[], [], none⟩ with
    registry := ⟨[("dump", .dump ⟨true, 0⟩ .standard)], ["dump"]⟩ }

namespace Session

theorem dumping_reports : dumping.Reports :=
  Or.inr (by decide)

theorem dumping_wellFormed : dumping.registry.WellFormed := by
  have filed := Registry.wellFormed_empty.update (.dump ⟨true, 0⟩ .standard)
  have activated : (Registry.empty.update "dump"
      (.dump ⟨true, 0⟩ .standard)).activate "dump" = .ok dumping.registry := by
    simp [Registry.activate, Registry.has, Ordered.has, Registry.update,
      Ordered.put, Ordered.find?, Registry.empty, Ordered.add, dumping]
  exact filed.activate activated

theorem dumping_answers {name : String}
    (active : name ∈ dumping.registry.active) (view : UnitView) :
    dumping.Answers name view none := by
  obtain rfl := List.mem_singleton.mp active
  obtain ⟨crashed, answered, -⟩ :=
    Plugin.answer_activate (.dump ⟨true, 0⟩ .standard) view dumping.sinks
  exact ⟨_, rfl, crashed, answered⟩

end Session

namespace Work

variable {session : Session} {view : UnitView}

theorem gives_callPlugin
    (wellFormed : session.registry.WellFormed)
    {name : String} {error? : Option PluginError}
    (answers : session.Answers name view error?) :
    Gives (callPlugin name (.activate view)) session error?
      [.plugin name view] [] := by
  obtain ⟨plugin, found, returns, error⟩ := answers
  obtain ⟨-, -, after, devices, -⟩ := plugin.answer_activate view session.sinks
  have entered : [Entry.called plugin (.activate view)].filterMap
      Entry.delivery? =
      [.plugin name view] := by
    rw [← wellFormed.named name plugin found]
    rfl
  apply Gives.ofSession
  rw [found]
  refine Gives.bind (entered ▸ Gives.enter session _) ?_
  intro later steady
  have kept := steady.plugins name
  rw [found] at kept
  obtain ⟨present, presentFound, settled⟩ := Option.map_eq_some_iff.mp kept
  have unchanged :
      (plugin.answer (.activate view) session.sinks).plugin.settled =
        present.settled := by
    rw [after, plugin.shown_settled, settled]
  refine Gives.bindQuiet (Gives.modify ⟨rfl, ?_, rfl, ?_, rfl⟩) ?_
  · exact Registry.update_settled presentFound unchanged
  · exact devices.trans steady.devices.symm
  intro changed _
  refine Gives.bindQuiet (Gives.note changed _) ?_
  intro noted _
  rw [if_neg (by simp [returns]), error]
  exact Gives.pure noted error?

/-- The plugins are called in order, as long as none of them fails. -/
theorem gives_callUntilFailure_append
    (wellFormed : session.registry.WellFormed) {names others : List String}
    (answers : ∀ name ∈ names, session.Answers name view none)
    {result : Option (String × PluginError)} {deliveries : List Delivery}
    (rest : ∀ after, session.Steady after →
      Gives (callUntilFailure (.activate view) others) after result deliveries
        []) :
    Gives (callUntilFailure (.activate view) (names ++ others)) session result
      (names.map (.plugin · view) ++ deliveries) [] := by
  induction names generalizing session with
  | nil => exact rest session (.refl session)
  | cons name names ih =>
      refine Gives.bind (gives_callPlugin wellFormed
        (answers name List.mem_cons_self)) ?_
      intro after steady
      refine ih (steady.wellFormed wellFormed) ?_ ?_
      · intro other member
        exact steady.answers (answers other (List.mem_cons_of_mem _ member))
      · exact fun later laterSteady => rest later (steady.trans laterSteady)

theorem gives_activateAll (wellFormed : session.registry.WellFormed)
    (answers : ∀ name ∈ session.registry.active,
      session.Answers name view none) :
    Gives (activateAll view) session (.ok ())
      (session.registry.active.map (.plugin · view)) [] := by
  have called :
      Gives (callUntilFailure (.activate view) session.registry.active)
        session none (session.registry.active.map (.plugin · view)) [] := by
    have all : Gives
        (callUntilFailure (.activate view) (session.registry.active ++ []))
        session none (session.registry.active.map (.plugin · view) ++ []) [] :=
      gives_callUntilFailure_append wellFormed answers
        fun after _ => Gives.pure after none
    rwa [List.append_nil, List.append_nil] at all
  apply Gives.ofSession
  refine Gives.bindDone called ?_
  exact fun after _ => Gives.pure after (Except.ok ())

/-- The first plugin that fails is the last one to be called. -/
theorem gives_activateAll_of_failure
    (wellFormed : session.registry.WellFormed)
    {before others : List String} {name : String} {error : PluginError}
    (active : session.registry.active = before ++ name :: others)
    (answers : ∀ earlier ∈ before, session.Answers earlier view none)
    (fails : session.Answers name view (some error)) :
    Gives (activateAll view) session (.error error)
      ((before ++ [name]).map (.plugin · view)) [] := by
  have called :
      Gives (callUntilFailure (.activate view) session.registry.active)
        session (some (name, error))
        ((before ++ [name]).map (.plugin · view)) [] := by
    rw [active, List.map_append]
    apply gives_callUntilFailure_append wellFormed answers
    intro after steady
    refine Gives.bind (gives_callPlugin (steady.wellFormed wellFormed)
      (steady.answers fails)) ?_
    exact fun later _ => Gives.pure later (some (name, error))
  apply Gives.ofSession
  refine Gives.bindDone called ?_
  exact fun after _ => Gives.pure after (Except.error error)

end Work

end QueryLint
