import Mathlib.Data.List.Induction
import QueryLint.Proofs.Plugin.Frames

/-!
# Requests to the plugins of a session

Plugins are registered, made active and inactive, and called, in any order.  A
name stays with the first plugin that is registered under it and accepts the
session's version of the interface, only names with a plugin are active, and a
request that is rejected changes nothing.
-/

namespace QueryLint

/-- What the plugins of a session are asked for. -/
inductive PluginRequest where
  | register (plugin : Plugin)
  | activate (names : List String)
  | deactivate (name : String)
  | prepare
  | present (view : UnitView)
  | cleanup

namespace PluginRequest

def work : PluginRequest → Work (Except PluginError Unit)
  | register plugin => Work.register plugin
  | activate names => Work.activateNames names
  | deactivate name =>
      Work.changeRegistry fun registry => registry.deactivate name
  | prepare => Work.prepareActive
  | present view => Work.activateAll view
  | cleanup => Work.cleanup

/-- The request registers a plugin, or makes one name active or inactive. -/
inductive ForOne : PluginRequest → Prop where
  | register (plugin : Plugin) : ForOne (.register plugin)
  | activate (name : String) : ForOne (.activate [name])
  | deactivate (name : String) : ForOne (.deactivate name)

/-- The request calls plugins. -/
inductive ForCalls : PluginRequest → Prop where
  | prepare : ForCalls .prepare
  | present (view : UnitView) : ForCalls (.present view)
  | cleanup : ForCalls .cleanup

/-- The plugin that the request is to register under the name, if it accepts the
version. -/
def offered? (version : Nat) (name : String) : PluginRequest → Option Plugin
  | register plugin =>
      if plugin.accepts version = true ∧ plugin.name = name then some plugin
      else none
  | _ => none

/-- The first of the plugins that are offered for the name. -/
def firstOffered? (version : Nat) (name : String)
    (requests : List PluginRequest) :
    Option Plugin :=
  requests.findSome? (offered? version name)

theorem firstOffered?_concat (version : Nat) (name : String)
    (requests : List PluginRequest) (request : PluginRequest) :
    firstOffered? version name (requests ++ [request]) =
      (firstOffered? version name requests).or
        (request.offered? version name) := by
  rw [firstOffered?, List.findSome?_append, List.findSome?_singleton]
  rfl

end PluginRequest

namespace Session

open PluginRequest (firstOffered?)

/-- The session after requests, whether they are accepted or not. -/
def after (session : Session) (requests : List PluginRequest) : Session :=
  requests.foldl (fun session request => (request.work session).session) session

/-- The registry has what the requests come to in a session without plugins. -/
structure Recounts (session : Session) (version : Nat)
    (requests : List PluginRequest) :
    Prop where
  provides : session.apiVersion = version
  names : session.registry.names.Pairwise (· < ·)
  active : session.registry.active.Pairwise (· < ·)
  registered : ∀ name ∈ session.registry.active, name ∈ session.registry.names
  plugins : ∀ name,
    Option.Rel Plugin.Becomes (firstOffered? version name requests)
      (session.registry.find? name)

namespace Recounts

variable {session after : Session} {version : Nat}
  {requests : List PluginRequest}

theorem of_fresh {session : Session} (fresh : session.registry = .empty) :
    session.Recounts session.apiVersion [] := by
  constructor
  · rfl
  · rw [fresh]
    exact .nil
  · rw [fresh]
    exact .nil
  · rw [fresh]
    exact nofun
  · rw [fresh]
    exact fun name => .none

/-- Where a plugin is registered there is a first offer, and calls have made
that plugin of it. -/
theorem exists_firstOffered? (recounts : session.Recounts version requests)
    {name : String} {plugin : Plugin}
    (found : session.registry.find? name = some plugin) :
    ∃ first, firstOffered? version name requests = some first ∧
      first.Becomes plugin := by
  have bound := recounts.plugins name
  rw [found] at bound
  generalize firstOffered? version name requests = first? at bound
  cases bound with
  | some becomes => exact ⟨_, rfl, becomes⟩

theorem firstOffered?_of_missing
    (recounts : session.Recounts version requests) {name : String}
    (missing : session.registry.find? name = none) :
    firstOffered? version name requests = none := by
  have bound := recounts.plugins name
  rw [missing] at bound
  generalize firstOffered? version name requests = first? at bound
  cases bound
  rfl

/-- A request that offers nothing new and changes the active names only, to
names with a plugin. -/
theorem activate (recounts : session.Recounts version requests)
    {request : PluginRequest}
    (settled : ∀ name,
      (firstOffered? version name requests).or (request.offered? version name) =
        firstOffered? version name requests) {active : List String}
    (ascending : active.Pairwise (· < ·))
    (registered : ∀ name ∈ active, name ∈ session.registry.names) :
    Recounts
      { session with registry := { session.registry with active := active } }
      version (requests ++ [request]) := by
  refine ⟨recounts.provides, recounts.names, ascending, registered,
    fun name => ?_⟩
  rw [PluginRequest.firstOffered?_concat, settled]
  exact recounts.plugins name

theorem onlyCalled (recounts : session.Recounts version requests)
    {request : PluginRequest}
    (idle : ∀ name, request.offered? version name = none)
    (called : session.OnlyCalled after) :
    after.Recounts version (requests ++ [request]) := by
  have names := called.names recounts.names
  refine ⟨called.version.trans recounts.provides, ?_, ?_, ?_, fun name => ?_⟩
  · exact names ▸ recounts.names
  · exact called.active ▸ recounts.active
  · exact names ▸ called.active ▸ recounts.registered
  · rw [PluginRequest.firstOffered?_concat, idle, Option.or_none]
    exact Plugin.rel_becomes_trans (recounts.plugins name) (called.plugins name)

/-- A plugin that accepts the version is registered under a name that was not
taken. -/
theorem registered_plugin (recounts : session.Recounts version requests)
    {plugin : Plugin} (accepts : plugin.accepts version = true)
    (missing : session.registry.find? plugin.name = none) :
    Recounts
      { session with
        registry := session.registry.update plugin.name plugin }
      version (requests ++ [.register plugin]) := by
  constructor
  · exact recounts.provides
  · have ascending := Ordered.ascending_iff.mpr recounts.names
    exact Ordered.ascending_iff.mp
      (Ordered.ascending_put ascending plugin.name plugin)
  · exact recounts.active
  · intro name member
    have known := Registry.mem_names_iff.mp (recounts.registered name member)
    exact Registry.mem_names_iff.mpr
      (Registry.has_update_iff.mpr (Or.inr known))
  · intro name
    rw [PluginRequest.firstOffered?_concat, Registry.find?_update]
    by_cases same : name = plugin.name
    · subst same
      simpa [PluginRequest.offered?, recounts.firstOffered?_of_missing missing,
        accepts] using Plugin.rel_becomes_refl (some plugin)
    · simpa [PluginRequest.offered?, same, Ne.symm same] using
        recounts.plugins name

theorem register (recounts : session.Recounts version requests)
    (plugin : Plugin) :
    (Work.register plugin session).session.Recounts version
      (requests ++ [.register plugin]) := by
  by_cases accepts : plugin.accepts session.apiVersion = true
  · cases taken : session.registry.has plugin.name with
    | true =>
        rw [(Work.registers_register_of_taken accepts taken).session]
        refine recounts.activate
          (fun name => ?_) recounts.active recounts.registered
        by_cases same : plugin.name = name
        · subst same
          -- The first offer for a name that is taken stays the first.
          obtain ⟨present, found⟩ := Option.isSome_iff_exists.mp taken
          obtain ⟨first, offered, -⟩ := recounts.exists_firstOffered? found
          rw [offered]
          rfl
        · simp [PluginRequest.offered?, same]
    | false =>
        rw [(Work.registers_register accepts taken).session]
        exact recounts.registered_plugin (recounts.provides ▸ accepts)
          (Option.not_isSome_iff_eq_none.mp (Bool.eq_false_iff.mp taken))
  · have refuses := Bool.eq_false_iff.mpr accepts
    rw [(Work.registers_register_of_incompatible refuses).session]
    refine recounts.activate
      (fun name => ?_) recounts.active recounts.registered
    simp [PluginRequest.offered?, ← recounts.provides, accepts]

/-- What one request does is recounted with the requests before it. -/
theorem step (recounts : session.Recounts version requests)
    (request : PluginRequest) :
    (request.work session).session.Recounts version
      (requests ++ [request]) := by
  cases request with
  | register plugin => exact recounts.register plugin
  | activate names =>
      change (Work.activateNames names session).session.Recounts version _
      rw [(Work.registers_activateNames names session).session]
      refine recounts.activate (fun _ => Option.or_none)
        (Ordered.pairwise_addAll recounts.active _) ?_
      intro name member
      rcases Ordered.mem_addAll_iff.mp member with old | new
      · exact recounts.registered name old
      · exact Registry.mem_names_iff.mpr (List.mem_takeWhile_imp new)
  | deactivate name =>
      change (Work.changeRegistry _ session).session.Recounts version _
      by_cases known : session.registry.has name = true
      · rw [(Work.registers_deactivate known).session]
        refine recounts.activate (fun _ => Option.or_none)
          (recounts.active.filter _) ?_
        intro other member
        exact recounts.registered other (List.mem_of_mem_filter member)
      · rw [(Work.registers_deactivate_of_unknown known).session]
        exact recounts.activate
          (fun _ => Option.or_none) recounts.active recounts.registered
  | prepare =>
      exact recounts.onlyCalled (fun _ => rfl)
        (Work.onlyCalls_prepareActive session)
  | present view =>
      exact recounts.onlyCalled (fun _ => rfl)
        (Work.onlyCalls_activateAll view session)
  | cleanup =>
      exact recounts.onlyCalled (fun _ => rfl) (Work.onlyCalls_cleanup session)

theorem of_requests {start : Session} (fresh : start.registry = .empty)
    (requests : List PluginRequest) :
    (start.after requests).Recounts start.apiVersion requests := by
  induction requests using List.reverseRecOn with
  | nil => exact of_fresh fresh
  | append_singleton requests request ih =>
      have last : start.after (requests ++ [request]) =
          (request.work (start.after requests)).session :=
        List.foldl_concat _ _ _ _
      rw [last]
      exact ih.step request

/-- A plugin is registered under its own name, and it accepts the version. -/
theorem own (recounts : session.Recounts version requests) {name : String}
    {plugin : Plugin} (found : session.registry.find? name = some plugin) :
    plugin.name = name ∧ plugin.accepts version = true := by
  obtain ⟨first, offered, becomes⟩ := recounts.exists_firstOffered? found
  obtain ⟨info, accepts⟩ := becomes.kept
  obtain ⟨request, -, offers⟩ := List.exists_of_findSome?_eq_some offered
  cases request with
  | register other =>
      simp only [PluginRequest.offered?] at offers
      split_ifs at offers with fits
      cases offers
      exact ⟨(congrArg PluginInfo.name info).trans fits.2, accepts ▸ fits.1⟩
  | _ => cases offers

theorem infos_named (recounts : session.Recounts version requests) :
    session.registry.infos.map PluginInfo.name = session.registry.names := by
  have ascending := Ordered.ascending_iff.mpr recounts.names
  rw [Registry.infos, Registry.names, Ordered.values, Ordered.keys,
    List.map_map, List.map_map]
  refine List.map_congr_left fun entry member => ?_
  exact (recounts.own ((Ordered.find?_eq_some_iff ascending).mpr member)).1

theorem wellFormed (recounts : session.Recounts version requests) :
    session.registry.WellFormed := by
  constructor
  · exact fun name plugin found => (recounts.own found).1
  · exact recounts.active
  · exact fun name member =>
      Registry.mem_names_iff.mp (recounts.registered name member)

end Recounts

/-- Why the session rejects the request, if it does. -/
def rejection? (session : Session) : PluginRequest → Option PluginError
  | .register plugin =>
      if plugin.accepts session.apiVersion = false then
        some (.versionIncompatible
          (s!"Plugin '{plugin.name}' targets API version {plugin.info.apiVersion}, " ++
            s!"system provides {session.apiVersion}"))
      else if session.registry.has plugin.name then
        some (.generic s!"Plugin '{plugin.name}' is already registered")
      else none
  | .activate names =>
      (names.find? fun name => !session.registry.has name).map .notFound
  | .deactivate name =>
      if session.registry.has name then none else some (.notFound name)
  | .prepare | .present _ | .cleanup => none

variable {session : Session}

/-- A request that calls no plugin ends as the session says, and one for one
plugin or one name changes nothing if it is rejected. -/
theorem work_of_not_forCalls {request : PluginRequest}
    (silent : ¬ request.ForCalls) :
    (request.work session).ending =
        .value (PluginError.result (session.rejection? request)) ∧
      (request.ForOne → session.rejection? request ≠ none →
        (request.work session).session = session) := by
  cases request with
  | prepare => exact absurd .prepare silent
  | present view => exact absurd (.present view) silent
  | cleanup => exact absurd .cleanup silent
  | register plugin =>
      cases accepts : plugin.accepts session.apiVersion with
      | false =>
          have rejected := Work.registers_register_of_incompatible accepts
          rw [rejection?, if_pos accepts]
          exact ⟨rejected.ending, fun _ _ => rejected.session⟩
      | true =>
          rw [rejection?, if_neg (by simp [accepts])]
          cases taken : session.registry.has plugin.name with
          | true =>
              have rejected := Work.registers_register_of_taken accepts taken
              exact ⟨rejected.ending, fun _ _ => rejected.session⟩
          | false =>
              exact ⟨(Work.registers_register accepts taken).ending,
                fun _ => absurd rfl⟩
  | activate names =>
      refine ⟨(Work.registers_activateNames names session).ending,
        fun forOne rejected => ?_⟩
      cases forOne with
      | activate name =>
          have unknown : ¬ session.registry.has name = true := by
            intro known
            simp [rejection?, known] at rejected
          refine (Work.registers_activateNames [name] session).session.trans ?_
          rw [List.takeWhile_cons_of_neg unknown]
          rfl
  | deactivate name =>
      by_cases known : session.registry.has name = true
      · rw [rejection?, if_pos known]
        exact ⟨(Work.registers_deactivate known).ending, fun _ => absurd rfl⟩
      · have rejected := Work.registers_deactivate_of_unknown known
        rw [rejection?, if_neg known]
        exact ⟨rejected.ending, fun _ _ => rejected.session⟩

theorem onlyCalled_of_forCalls {request : PluginRequest}
    (calls : request.ForCalls) :
    session.OnlyCalled (request.work session).session := by
  cases calls with
  | prepare => exact Work.onlyCalls_prepareActive session
  | present view => exact Work.onlyCalls_activateAll view session
  | cleanup => exact Work.onlyCalls_cleanup session

/-- In a session that begins without plugins, requests in any order leave each
name with the first plugin offered for it, and only such names active.  A
request for one plugin or one name that is rejected changes nothing, names
become active up to the first without a plugin, and calls leave the names as
they are. -/
theorem plugins_after_requests {start : Session}
    (fresh : start.registry = .empty) (requests : List PluginRequest) :
    let now := start.after requests
    now.Recounts start.apiVersion requests ∧
      (∀ name plugin, now.registry.find? name = some plugin →
        plugin.name = name ∧ plugin.accepts start.apiVersion = true) ∧
      now.registry.infos.map PluginInfo.name = now.registry.names ∧
      (∀ request : PluginRequest, ¬ request.ForCalls →
        (request.work now).ending =
          .value (PluginError.result (now.rejection? request)) ∧
        (request.ForOne → now.rejection? request ≠ none →
          (request.work now).session = now)) ∧
      (∀ names, let done := (PluginRequest.activate names).work now
        done.session.registry.plugins = now.registry.plugins ∧
        ∀ name, name ∈ done.session.registry.active ↔
          name ∈ now.registry.active ∨
          name ∈ names.takeWhile now.registry.has) ∧
      ∀ request : PluginRequest, request.ForCalls →
        (request.work now).session.registry.names = now.registry.names ∧
        (request.work now).session.registry.active = now.registry.active := by
  intro now
  have recounts : now.Recounts start.apiVersion requests :=
    .of_requests fresh requests
  refine ⟨recounts, fun name plugin => recounts.own, recounts.infos_named,
    fun request => work_of_not_forCalls, fun names => ?_,
    fun request calls => ?_⟩
  · intro done
    have activated : done.session = _ :=
      (Work.registers_activateNames names now).session
    rw [activated]
    exact ⟨rfl, fun name => Ordered.mem_addAll_iff⟩
  · have called := @onlyCalled_of_forCalls now request calls
    exact ⟨called.names recounts.names, called.active⟩

/-- Of three plugins the one that does not accept the version and the one that
comes second for its name are rejected, and the one that is left is the only
name to become active. -/
theorem plugins_after_requests_of_three :
    let info (name : String) : PluginInfo :=
      ⟨name, "1.0.0", "", "", 20250101, false⟩
    let old : Plugin := .custom (info "b") (· < 20250101) fun _ => none
    let first : Plugin := .custom (info "a") (20250101 ≤ ·) fun _ => none
    let second : Plugin :=
      .custom (info "a") (20250101 ≤ ·) fun _ => some (.generic "late")
    let start := Session.start 20260101 .report .fresh ⟨[], [], none⟩
    let requests := [.register old, .register first, .register second, .cleanup]
    let now := start.after requests
    let done := (PluginRequest.activate ["a", "b", "a"]).work now
    start.registry = .empty ∧ now.registry.names = ["a"] ∧
      ((PluginRequest.register second).work now).session = now ∧
      done.ending = .value (.error (.notFound "b")) ∧
      ∀ name, name ∈ done.session.registry.active ↔ name = "a" := by
  intro info old first second start requests now done
  have fresh : start.registry = .empty := rfl
  obtain ⟨-, -, -, rejects, activates, -⟩ :=
    plugins_after_requests fresh requests
  have taken : now.rejection? (.register second) ≠ none := by decide +kernel
  have missing : now.rejection? (.activate ["a", "b", "a"]) =
      some (.notFound "b") := by
    decide +kernel
  have unchanged :=
    (rejects (.register second) nofun).2 (.register second) taken
  have ending := (rejects (.activate ["a", "b", "a"]) nofun).1
  have members := (activates ["a", "b", "a"]).2
  have inactive : now.registry.active = [] := by decide +kernel
  have known : ["a", "b", "a"].takeWhile now.registry.has = ["a"] := by
    decide +kernel
  rw [missing] at ending
  refine ⟨fresh, by decide +kernel, unchanged, ending, fun name => ?_⟩
  rw [members name, known, inactive]
  simp

end Session

end QueryLint
