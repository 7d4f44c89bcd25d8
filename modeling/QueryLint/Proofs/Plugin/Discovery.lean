import QueryLint.Plugin.Host
import QueryLint.Proofs.Plugin.Registry
import QueryLint.Proofs.Session.Steady

/-!
# Discovering plugins and making them active

Discovery registers the plugins that come with the tool, except those excluded,
and changes nothing but the registry.  A plugin that does not accept the
interface, or whose name is taken, is refused.  Names become active up to the
first that is not registered.
-/

namespace QueryLint

theorem Registry.has_update_iff {registry : Registry} {name other : String}
    {plugin : Plugin} :
    (registry.update name plugin).has other = true ↔
      other = name ∨ registry.has other = true := by
  rw [has, has, Ordered.has, Ordered.has, update]
  by_cases same : other = name
  · subst same
    simp
  · simp [Ordered.find?_put_of_ne same, same]

/-- The result of work that fails with the error, if there is one. -/
def PluginError.result : Option PluginError → Except PluginError Unit
  | none => .ok ()
  | some error => .error error

namespace Work

variable {session : Session}

/-- The work ends with the value and changes only the registry of the
session. -/
structure Registers {α : Type} (work : Work α) (session : Session) (value : α)
    (registry : Registry) : Prop where
  ending : (work session).ending = .value value
  session : (work session).session = { session with registry := registry }

theorem Registers.bind {α β : Type} {work : Work α} {next : α → Work β}
    {value : α} {result : β} {between registry : Registry}
    (first : Registers work session value between)
    (rest : Registers (next value)
      { session with registry := between } result registry) :
    Registers (work >>= next) session result registry := by
  have unfolded := bind_of_value first.ending next
  rw [first.session] at unfolded
  constructor
  · rw [unfolded, rest.ending]
  · rw [unfolded, rest.session]

theorem Registers.ofSession {α : Type} {next : Session → Work α} {value : α}
    {registry : Registry}
    (rest : Registers (next session) session value registry) :
    Registers (Work.session >>= next) session value registry :=
  ⟨rest.ending, rest.session⟩

theorem registers_pure {α : Type} (value : α) (session : Session) :
    Registers (Pure.pure value : Work α) session value session.registry :=
  ⟨rfl, rfl⟩

theorem registers_note (records : List Log.Record) (session : Session) :
    Registers (note records) session () session.registry :=
  ⟨rfl, rfl⟩

theorem registers_changeRegistry
    {change : Registry → Except PluginError Registry} {registry : Registry}
    (changed : change session.registry = .ok registry) :
    Registers (changeRegistry change) session (.ok ()) registry := by
  apply Registers.ofSession
  rw [changed]
  exact ⟨rfl, rfl⟩

theorem registers_changeRegistry_of_error
    {change : Registry → Except PluginError Registry} {error : PluginError}
    (refused : change session.registry = .error error) :
    Registers (changeRegistry change) session
      (.error error) session.registry := by
  apply Registers.ofSession
  rw [refused]
  exact registers_pure _ session

theorem registers_register {plugin : Plugin}
    (accepts : plugin.accepts session.apiVersion = true)
    (absent : session.registry.has plugin.name = false) :
    Registers (register plugin) session (.ok ())
      (session.registry.update plugin.name plugin) := by
  have added : session.registry.register plugin =
      .ok (session.registry.update plugin.name plugin) := by
    rw [Registry.register, absent]
    rfl
  apply Registers.ofSession
  rw [if_pos accepts]
  refine (registers_changeRegistry added).bind ?_
  exact (registers_note _ _).bind (registers_pure _ _)

theorem registers_register_of_incompatible {plugin : Plugin}
    (refuses : plugin.accepts session.apiVersion = false) :
    Registers (register plugin) session (.error (.versionIncompatible
      (s!"Plugin '{plugin.name}' targets API version {plugin.info.apiVersion}, " ++
        s!"system provides {session.apiVersion}"))) session.registry := by
  apply Registers.ofSession
  rw [if_neg (Bool.eq_false_iff.mp refuses)]
  exact registers_pure _ session

theorem registers_register_of_taken {plugin : Plugin}
    (accepts : plugin.accepts session.apiVersion = true)
    (taken : session.registry.has plugin.name = true) :
    Registers (register plugin) session
      (.error (.generic s!"Plugin '{plugin.name}' is already registered"))
      session.registry := by
  have refused : session.registry.register plugin =
      .error (.generic s!"Plugin '{plugin.name}' is already registered") := by
    rw [Registry.register, if_pos taken]
  apply Registers.ofSession
  rw [if_pos accepts]
  exact (registers_changeRegistry_of_error refused).bind (registers_pure _ _)

/-- A plugin that is not excluded is registered, and may be made active, before
the others. -/
theorem exists_registers_discoverAmong_cons {excludes : List String}
    {plugin : Plugin} (included : ¬ excludes.contains plugin.name = true)
    (accepts : plugin.accepts session.apiVersion = true)
    (absent : session.registry.has plugin.name = false) (others : List Plugin)
    (count : Nat) :
    ∃ active, ∀ {result : Except PluginError Nat} {registry : Registry},
      Registers (discoverAmong excludes others (count + 1))
        { session with
          registry :=
  ⟨(session.registry.update plugin.name plugin).plugins, active⟩ }
        result registry →
      Registers (discoverAmong excludes (plugin :: others) count) session result
        registry := by
  rw [discoverAmong, if_neg included]
  have registered := registers_register accepts absent
  let filed := session.registry.update plugin.name plugin
  by_cases auto : plugin.info.autoActive = true
  · have known : filed.has plugin.name = true :=
      Registry.has_update_iff.mpr (Or.inl rfl)
    have activated : filed.activate plugin.name =
        .ok ⟨filed.plugins, Ordered.add plugin.name filed.active⟩ := by
      rw [Registry.activate, if_pos known]
    refine ⟨Ordered.add plugin.name filed.active,
      fun rest => registered.bind ?_⟩
    rw [if_pos auto]
    exact (registers_changeRegistry activated).bind rest
  · refine ⟨filed.active, fun rest => registered.bind ?_⟩
    rw [if_neg auto]
    exact rest

/-- Plugins that accept the interface are registered, except those excluded. -/
theorem exists_registers_discoverAmong (excludes : List String)
    {plugins : List Plugin}
    (accepts : ∀ plugin ∈ plugins, plugin.accepts session.apiVersion = true)
    (absent : ∀ plugin ∈ plugins, session.registry.has plugin.name = false)
    (distinct : (plugins.map Plugin.name).Nodup) (count : Nat) :
    ∃ total registry,
      Registers (discoverAmong excludes plugins count) session
        (.ok total) registry ∧
      ∀ name, registry.has name = true ↔ session.registry.has name = true ∨
        name ∈ plugins.map Plugin.name ∧ name ∉ excludes := by
  induction plugins generalizing session count with
  | nil =>
      refine ⟨count, session.registry, ?_, by simp⟩
      exact (registers_note _ _).bind (registers_pure _ _)
  | cons plugin others ih =>
      obtain ⟨acceptsFirst, acceptsOthers⟩ := List.forall_mem_cons.mp accepts
      obtain ⟨absentFirst, absentOthers⟩ := List.forall_mem_cons.mp absent
      rw [List.map_cons, List.nodup_cons] at distinct
      obtain ⟨distinctFirst, distinctOthers⟩ := distinct
      simp only [List.map_cons, List.mem_cons]
      by_cases excluded : excludes.contains plugin.name = true
      · obtain ⟨total, registry, rest, names⟩ :=
          ih acceptsOthers absentOthers distinctOthers count
        refine ⟨total, registry, ?_, ?_⟩
        · rw [discoverAmong, if_pos excluded]
          exact (registers_note _ _).bind rest
        · intro name
          have gone : name = plugin.name → name ∈ excludes := by
            rintro rfl
            exact List.contains_iff_mem.mp excluded
          rw [names]
          tauto
      · obtain ⟨active, registers⟩ :=
          exists_registers_discoverAmong_cons excluded acceptsFirst absentFirst
            others count
        let after : Registry :=
          ⟨(session.registry.update plugin.name plugin).plugins, active⟩
        have known : ∀ name, after.has name = true ↔
            name = plugin.name ∨ session.registry.has name = true :=
          fun _ => Registry.has_update_iff
        have absentLater : ∀ other ∈ others, after.has other.name = false := by
          intro other member
          rw [Bool.eq_false_iff, Ne, known, not_or]
          refine ⟨?_, Bool.eq_false_iff.mp (absentOthers other member)⟩
          intro same
          exact distinctFirst (List.mem_map.mpr ⟨other, member, same⟩)
        obtain ⟨total, registry, rest, names⟩ :=
          @ih { session with registry := after } acceptsOthers absentLater
            distinctOthers (count + 1)
        refine ⟨total, registry, registers rest, ?_⟩
        intro name
        have kept : name = plugin.name → name ∉ excludes := by
          rintro rfl
          exact fun member => excluded (List.contains_iff_mem.mpr member)
        rw [names, known]
        tauto

theorem exists_registers_discover (excludes : List String)
    (fresh : session.registry = .empty)
    (version : session.apiVersion = apiVersion) :
    ∃ total registry,
      Registers (discover excludes) session (.ok total) registry ∧
      ∀ name, registry.has name = true ↔
        name ∈ Plugin.builtins.map Plugin.name ∧ name ∉ excludes := by
  have accepts : ∀ plugin ∈ Plugin.builtins,
      plugin.accepts session.apiVersion = true := by
    rw [version]
    decide
  have absent : ∀ plugin ∈ Plugin.builtins,
      session.registry.has plugin.name = false := by
    rw [fresh]
    exact fun _ _ => rfl
  obtain ⟨total, registry, registers, names⟩ :=
    exists_registers_discoverAmong excludes accepts absent (by decide) 0
  refine ⟨total, registry, registers, ?_⟩
  intro name
  rw [names, fresh]
  exact or_iff_right nofun

/-- Names become active up to the first without a plugin, which is reported. -/
theorem registers_activateNames (names : List String) (session : Session) :
    Registers (activateNames names) session
      (PluginError.result
        ((names.find? fun name => !session.registry.has name).map .notFound))
      { session.registry with
        active :=
          Ordered.addAll (names.takeWhile session.registry.has)
            session.registry.active } := by
  induction names generalizing session with
  | nil => exact registers_pure _ session
  | cons name others ih =>
      by_cases known : session.registry.has name = true
      · have activated : session.registry.activate name = .ok
            { session.registry with
              active := Ordered.add name session.registry.active } := by
          rw [Registry.activate, if_pos known]
        rw [List.find?_cons_of_neg (by simp [known]),
          List.takeWhile_cons_of_pos known]
        refine (registers_changeRegistry activated).bind ?_
        exact (registers_note _ _).bind (ih _)
      · have refused : session.registry.activate name =
            .error (.notFound name) := by
          rw [Registry.activate, if_neg known]
        rw [List.find?_cons_of_pos (by simp [known]),
          List.takeWhile_cons_of_neg known]
        exact (registers_changeRegistry_of_error refused).bind
          (registers_pure _ _)

/-- Making names active succeeds if all of them are registered. -/
theorem exists_registers_activateNames (names : List String)
    (session : Session) :
    ∃ result active, Registers (activateNames names) session result
        ⟨session.registry.plugins, active⟩ ∧
      (result = .ok () ↔ ∀ name ∈ names, session.registry.has name = true) := by
  refine ⟨_, _, registers_activateNames names session, ?_⟩
  have allKnown : (names.find? fun name => !session.registry.has name) = none ↔
      ∀ name ∈ names, session.registry.has name = true := by
    simp
  rw [← allKnown]
  cases names.find? fun name => !session.registry.has name with
  | none => exact iff_of_true rfl rfl
  | some name => exact iff_of_false nofun nofun

theorem registers_deactivate {name : String}
    (known : session.registry.has name = true) :
    Registers (changeRegistry fun registry => registry.deactivate name) session
      (.ok ())
      { session.registry with
        active := session.registry.active.filter fun other => other != name } :=
  registers_changeRegistry (if_pos known)

theorem registers_deactivate_of_unknown {name : String}
    (unknown : ¬ session.registry.has name = true) :
    Registers (changeRegistry fun registry => registry.deactivate name) session
      (.error (.notFound name)) session.registry :=
  registers_changeRegistry_of_error (if_neg unknown)

end Work

end QueryLint
