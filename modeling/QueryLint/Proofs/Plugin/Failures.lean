import QueryLint.Proofs.Plugin.Requests

/-!
# When active plugins fail

Preparing plugins and showing them a unit goes through the active names up to
the first plugin that fails; cleaning up goes through all of them and reports
the first that fails.  A call does not decide what the plugin of another name
answers, so that the answers can be read from the session in which the calls
begin.
-/

namespace QueryLint

theorem Plugin.crashed_prepare (plugin : Plugin) (sinks : Sinks) :
    (plugin.answer .prepare sinks).crashed = false := by
  cases plugin <;> rfl

/-- The name and the call of which the entry tells, if it does. -/
def Entry.call? : Entry → Option (String × PluginCall)
  | called plugin call => some (plugin.name, call)
  | _ => none

/-- What a call comes to that ends in the way given, if there is one. -/
def Ending.ofStop? : Option (Ending PluginError) → Ending (Option PluginError)
  | none => .value none
  | some (.value error) => .value (some error)
  | some .crash => .crash

namespace Session

/-- How the plugin of the name puts an end to calls, if it does: by a crash or
an error. -/
def stop? (session : Session) (call : PluginCall) (name : String) :
    Option (Ending PluginError) :=
  (session.registry.find? name).bind fun plugin =>
    let answer := plugin.answer call session.sinks
    if answer.crashed then some .crash else answer.error?.map .value

/-- The error with which the plugin of the name answers the call, if it does. -/
def failure? (session : Session) (call : PluginCall) (name : String) :
    Option PluginError :=
  (session.registry.find? name).bind fun plugin =>
    (plugin.answer call session.sinks).error?

/-- The first active name whose plugin puts an end to the calls, and how it
does. -/
def firstStop? (session : Session) (call : PluginCall) :
    Option (String × Ending PluginError) :=
  session.registry.active.findSome? fun name =>
    (session.stop? call name).map (name, ·)

/-- The first active name whose plugin fails, and its error. -/
def firstFailure? (session : Session) (call : PluginCall) :
    Option (String × PluginError) :=
  session.registry.active.findSome? fun name =>
    (session.failure? call name).map (name, ·)

/-- The active names up to the first whose plugin puts an end to the calls,
which is one of them. -/
def upToStop (session : Session) (call : PluginCall) : List String :=
  session.registry.active.takeWhile
      (fun name => (session.stop? call name).isNone) ++
    (session.registry.active.find? fun name =>
      (session.stop? call name).isSome).toList

end Session

namespace Work

variable {α β : Type} {session : Session} {name : String} {call : PluginCall}

/-- The calls that the work makes in the session. -/
def calls (work : Work α) (session : Session) : List (String × PluginCall) :=
  (work session).journal.filterMap Entry.call?

/-- The work ends so and makes these calls. -/
structure Makes (work : Work α) (session : Session) (ending : Ending α)
    (entries : List (String × PluginCall)) : Prop where
  ending : (work session).ending = ending
  made : work.calls session = entries

theorem calls_note (records : List Log.Record) (session : Session) :
    (note records).calls session = [] := by
  simp [calls, note, enter, Entry.call?]

theorem Makes.bind {first : Work α} {next : α → Work β} {value : α}
    {ending : Ending β} {earlier later : List (String × PluginCall)}
    (begins : Makes first session (.value value) earlier)
    (continues : Makes (next value) (first session).session ending later) :
    Makes (first >>= next) session ending (earlier ++ later) := by
  have unfolded := bind_of_value begins.ending next
  constructor
  · rw [unfolded]
    exact continues.ending
  · rw [calls, unfolded, List.filterMap_append]
    exact congrArg₂ _ begins.made continues.made

theorem Makes.bind_crash {first : Work α} {made : List (String × PluginCall)}
    (crashes : Makes first session .crash made) (next : α → Work β) :
    Makes (first >>= next) session .crash made := by
  obtain ⟨ending, rfl⟩ := crashes
  have unfolded := bind_of_crash ending next
  exact ⟨congrArg Done.ending unfolded, by rw [calls, unfolded]; rfl⟩

theorem Makes.ofSession {next : Session → Work α} {ending : Ending α}
    {made : List (String × PluginCall)}
    (makes : Makes (next session) session ending made) :
    Makes (Work.session >>= next) session ending made :=
  ⟨makes.ending, makes.made⟩

/-- Work that ends with a value is followed by work that makes no calls. -/
theorem Makes.andThen {first : Work α} {next : α → Work β} {value : α}
    {ending : Ending β} {made : List (String × PluginCall)}
    (begins : Makes first session (.value value) made)
    (continues : ∀ after, Makes (next value) after ending []) :
    Makes (first >>= next) session ending made := by
  have both := begins.bind (continues _)
  rwa [List.append_nil] at both

theorem makes_pure (value : α) (session : Session) :
    Makes (Pure.pure value : Work α) session (.value value) [] :=
  ⟨rfl, rfl⟩

end Work

namespace Session

variable {session : Session} {name : String}

theorem wellFormed_callPlugin (wellFormed : session.registry.WellFormed)
    (name : String) (call : PluginCall) :
    (Work.callPlugin name call session).session.registry.WellFormed := by
  cases found : session.registry.find? name with
  | none =>
      rw [Work.callPlugin_of_missing found]
      exact wellFormed
  | some plugin =>
      have filed : (plugin.answer call session.sinks).plugin.name = name :=
        (congrArg PluginInfo.name
          (plugin.answer_plugin call session.sinks).1).trans
          (wellFormed.named name plugin found)
      have updated :=
        wellFormed.update (plugin.answer call session.sinks).plugin
      rw [Work.callPlugin_of_found found]
      rwa [filed] at updated

/-- Only one plugin writes to sinks and depends on them, so that a call leaves
the answers of the plugins of all other names as they are. -/
theorem callPlugin_of_ne (wellFormed : session.registry.WellFormed)
    {other : String} (different : other ≠ name) (call : PluginCall) :
    let after := (Work.callPlugin name call session).session
    after.registry.find? other = session.registry.find? other ∧
      ∀ later, after.stop? later other = session.stop? later other := by
  intro after
  cases found : session.registry.find? name with
  | none =>
      have same : after = session :=
        congrArg Done.session (Work.callPlugin_of_missing found call)
      rw [same]
      exact ⟨rfl, fun _ => rfl⟩
  | some plugin =>
      have called : after = { session with
          registry :=
            session.registry.update name
              (plugin.answer call session.sinks).plugin
          sinks := (plugin.answer call session.sinks).sinks } :=
        congrArg Done.session (Work.callPlugin_of_found found call)
      have kept : after.registry.find? other =
          session.registry.find? other := by
        rw [called, Registry.find?_update, if_neg different]
      refine ⟨kept, fun later => ?_⟩
      rw [stop?, stop?, kept]
      cases foundOther : session.registry.find? other with
      | none => rfl
      | some next =>
          cases next with
          | custom info accepts respond => rfl
          | dump state outlet =>
              cases plugin with
              | custom info accepts respond =>
                  rw [called]
                  rfl
              | dump before target =>
                  -- Two names cannot both be that of the dump plugin.
                  have first := wellFormed.named name _ found
                  have second := wellFormed.named other _ foundOther
                  exact absurd (second.symm.trans first) different

/-- The names are those of different plugins, which put an end to the calls in
the ways given. -/
structure Answering (session : Session) (call : PluginCall)
    (stops : String → Option (Ending PluginError)) (names : List String) :
    Prop where
  wellFormed : session.registry.WellFormed
  distinct : names.Nodup
  registered : ∀ name ∈ names, session.registry.has name = true
  stops : ∀ name ∈ names, session.stop? call name = stops name

namespace Answering

variable {call : PluginCall} {stops : String → Option (Ending PluginError)}
  {others : List String}

theorem next (answering : session.Answering call stops (name :: others)) :
    (Work.callPlugin name call session).session.Answering call stops
      others := by
  obtain ⟨first, distinct⟩ := List.nodup_cons.mp answering.distinct
  have kept (other : String) (member : other ∈ others) :=
    callPlugin_of_ne answering.wellFormed
      (ne_of_mem_of_not_mem member first : other ≠ name) call
  constructor
  · exact wellFormed_callPlugin answering.wellFormed name call
  · exact distinct
  · intro other member
    rw [Registry.has, Ordered.has]
    rw [show Ordered.find? other _ = _ from (kept other member).1]
    exact answering.registered other (List.mem_cons_of_mem _ member)
  · intro other member
    rw [(kept other member).2]
    exact answering.stops other (List.mem_cons_of_mem _ member)

/-- The first name is called, and the call ends as it is given. -/
theorem makes (answering : session.Answering call stops (name :: others)) :
    Work.Makes (Work.callPlugin name call) session (Ending.ofStop? (stops name))
      [(name, call)] := by
  obtain ⟨plugin, found⟩ :=
    Option.isSome_iff_exists.mp (answering.registered name List.mem_cons_self)
  change session.registry.find? name = some plugin at found
  have called := Work.callPlugin_of_found found call
  rw [← answering.stops name List.mem_cons_self, stop?, found]
  constructor
  · rw [called]
    simp only [Option.bind_some]
    cases (plugin.answer call session.sinks).crashed with
    | true => rfl
    | false => cases (plugin.answer call session.sinks).error? <;> rfl
  · rw [Work.calls, called]
    have filed := answering.wellFormed.named name plugin found
    simp [Entry.call?, filed]

end Answering

theorem answering_active (wellFormed : session.registry.WellFormed)
    (call : PluginCall) :
    session.Answering call (session.stop? call) session.registry.active :=
  ⟨wellFormed, wellFormed.ascending.imp ne_of_lt, wellFormed.registered,
    fun _ _ => rfl⟩

theorem stop?_of_returns {call : PluginCall}
    (returns : ∀ (plugin : Plugin) (sinks : Sinks),
      (plugin.answer call sinks).crashed = false)
    (session : Session) :
    session.stop? call = fun name =>
      (session.failure? call name).map .value := by
  funext name
  rw [stop?, failure?]
  cases session.registry.find? name with
  | none => rfl
  | some plugin => simp [returns]

theorem firstStop?_of_returns {call : PluginCall}
    (returns : ∀ (plugin : Plugin) (sinks : Sinks),
      (plugin.answer call sinks).crashed = false)
    (session : Session) :
    session.firstStop? call =
      (session.firstFailure? call).map fun failed =>
        (failed.1, .value failed.2) := by
  rw [firstStop?, firstFailure?, List.map_findSome?, stop?_of_returns returns]
  simp [Function.comp_def]

end Session

namespace Work

variable {session : Session} {call : PluginCall} {names : List String}

/-- Calls go on up to the first that is put an end to, which decides how they
end. -/
theorem makes_callUntilFailure {stops : String → Option (Ending PluginError)}
    (answering : session.Answering call stops names) :
    Makes (callUntilFailure call names) session
      (match names.findSome? fun name => (stops name).map (name, ·) with
        | none => .value none
        | some (name, .value error) => .value (some (name, error))
        | some (_, .crash) => .crash)
      ((names.takeWhile (fun name => (stops name).isNone) ++
        (names.find? fun name => (stops name).isSome).toList).map
          (·, call)) := by
  induction names generalizing session with
  | nil => exact makes_pure none session
  | cons name others ih =>
      have begins := answering.makes
      rw [callUntilFailure]
      cases stopped : stops name with
      | none =>
          rw [stopped] at begins
          rw [List.findSome?_cons,
            List.takeWhile_cons_of_pos (by simp [stopped]),
            List.find?_cons_of_neg (by simp [stopped]), stopped]
          exact begins.bind (ih answering.next)
      | some stop =>
          rw [stopped] at begins
          rw [List.findSome?_cons,
            List.takeWhile_cons_of_neg (by simp [stopped]),
            List.find?_cons_of_pos (by simp [stopped]), stopped]
          cases stop with
          | crash => exact begins.bind_crash _
          | value error => exact begins.bind (makes_pure (some (name, error)) _)

theorem makes_callActive (wellFormed : session.registry.WellFormed)
    (call : PluginCall) :
    Makes (callUntilFailure call session.registry.active) session
      (match session.firstStop? call with
        | none => .value none
        | some (name, .value error) => .value (some (name, error))
        | some (_, .crash) => .crash)
      ((session.upToStop call).map (·, call)) :=
  makes_callUntilFailure (Session.answering_active wellFormed call)

/-- All names are called, and the first error is the one that is remembered. -/
theorem makes_cleanupAll {failures : String → Option PluginError}
    (answering : session.Answering .cleanup
      (fun name => (failures name).map .value) names)
    (first? : Option PluginError) :
    Makes (cleanupAll names first?) session
      (.value (PluginError.result (first?.or (names.findSome? failures))))
      (names.map (·, .cleanup)) := by
  induction names generalizing session first? with
  | nil => cases first? <;> exact makes_pure _ session
  | cons name others ih =>
      have begins := answering.makes
      rw [cleanupAll]
      cases failed : failures name with
      | none =>
          rw [failed] at begins
          rw [List.findSome?_cons, failed]
          exact begins.bind (ih answering.next first?)
      | some error =>
          rw [failed] at begins
          have remembered : (first?.orElse fun _ => some error).or
              (others.findSome? failures) =
              first?.or (some error) := by
            cases first? <;> rfl
          rw [List.findSome?_cons, failed]
          dsimp only
          rw [← remembered]
          refine begins.bind (Makes.bind ⟨rfl, calls_note _ _⟩ ?_)
          exact ih answering.next _

theorem makes_prepareActive (wellFormed : session.registry.WellFormed) :
    Makes prepareActive session
      (.value (PluginError.result
        ((session.firstFailure? .prepare).map fun failed =>
          .load failed.1 failed.2.message)))
      ((session.upToStop .prepare).map (·, .prepare)) := by
  have called := makes_callActive wellFormed .prepare
  rw [Session.firstStop?_of_returns Plugin.crashed_prepare] at called
  refine Makes.ofSession ?_
  cases failed : session.firstFailure? .prepare with
  | none =>
      rw [failed] at called
      exact called.andThen fun _ => makes_pure _ _
  | some failure =>
      rw [failed] at called
      exact called.andThen fun _ => makes_pure _ _

theorem makes_activateAll (wellFormed : session.registry.WellFormed)
    (view : UnitView) :
    Makes (activateAll view) session
      (match session.firstStop? (.activate view) with
        | none => .value (.ok ())
        | some (_, .value error) => .value (.error error)
        | some (_, .crash) => .crash)
      ((session.upToStop (.activate view)).map (·, .activate view)) := by
  have called := makes_callActive wellFormed (.activate view)
  refine Makes.ofSession ?_
  cases stopped : session.firstStop? (.activate view) with
  | none =>
      rw [stopped] at called
      exact called.andThen fun _ => makes_pure _ _
  | some stop =>
      obtain ⟨name, stop⟩ := stop
      rw [stopped] at called
      cases stop with
      | value error => exact called.andThen fun _ => makes_pure _ _
      | crash => exact called.bind_crash _

theorem makes_cleanup (wellFormed : session.registry.WellFormed) :
    Makes cleanup session
      (.value (PluginError.result
        ((session.firstFailure? .cleanup).map Prod.snd)))
      (session.registry.active.map (·, .cleanup)) := by
  have answering := Session.answering_active wellFormed .cleanup
  rw [Session.stop?_of_returns Plugin.crashed_cleanup] at answering
  have first : (session.firstFailure? .cleanup).map Prod.snd =
      session.registry.active.findSome? (session.failure? .cleanup) := by
    rw [Session.firstFailure?, List.map_findSome?]
    simp [Function.comp_def]
  rw [first]
  exact Makes.ofSession (makes_cleanupAll answering none)

/-- The work calls no plugin. -/
def CallsNone {α : Type} (work : Work α) : Prop :=
  ∀ session, work.calls session = []

theorem callsNone_pure {α : Type} (value : α) :
    CallsNone (Pure.pure value : Work α) :=
  fun _ => rfl

theorem CallsNone.bind {α β : Type} {first : Work α} {next : α → Work β}
    (earlier : CallsNone first) (later : ∀ value, CallsNone (next value)) :
    CallsNone (first >>= next) := by
  intro session
  cases ending : (first session).ending with
  | value value =>
      exact (Makes.bind ⟨ending, earlier _⟩ ⟨rfl, later value _⟩).made
  | crash => exact (Makes.bind_crash ⟨ending, earlier _⟩ next).made

theorem callsNone_changeRegistry
    (change : Registry → Except PluginError Registry) :
    CallsNone (changeRegistry change) := by
  intro session
  refine (Makes.ofSession ⟨rfl, ?_⟩).made
  cases change session.registry with
  | error error => rfl
  | ok registry => rfl

theorem callsNone_register (plugin : Plugin) : CallsNone (register plugin) := by
  intro session
  refine (Makes.ofSession ⟨rfl, ?_⟩).made
  split_ifs
  · refine CallsNone.bind (callsNone_changeRegistry _)
      (fun result => ?_) session
    cases result with
    | error error => exact callsNone_pure _
    | ok => exact CallsNone.bind (calls_note _) fun _ => callsNone_pure _
  · rfl

theorem callsNone_activateNames (names : List String) :
    CallsNone (activateNames names) := by
  induction names with
  | nil => exact callsNone_pure _
  | cons name others ih =>
      refine (callsNone_changeRegistry _).bind fun result => ?_
      cases result with
      | error error => exact callsNone_pure _
      | ok => exact CallsNone.bind (calls_note _) fun _ => ih

end Work

namespace Session

variable {session : Session} {call : PluginCall}

/-- In ascending order, the first name with a value is the least one. -/
private theorem findSome?_eq_some_iff_least {α : Type}
    {value? : String → Option α} {names : List String}
    (ascending : names.Pairwise (· < ·)) {name : String} {value : α} :
    (names.findSome? fun name => (value? name).map (name, ·)) =
      some (name, value) ↔
      name ∈ names ∧ value? name = some value ∧
        ∀ other ∈ names, other < name → value? other = none := by
  rw [List.findSome?_eq_some_iff]
  constructor
  · rintro ⟨before, first, behind, rfl, named, silent⟩
    obtain ⟨found, valued, same⟩ := Option.map_eq_some_iff.mp named
    cases same
    refine ⟨List.mem_append_right _ List.mem_cons_self, valued,
      fun other member smaller => ?_⟩
    rcases List.mem_append.mp member with earlier | member
    · exact Option.map_eq_none_iff.mp (silent other earlier)
    · have above :=
        List.pairwise_cons.mp (List.pairwise_append.mp ascending).2.1
      rcases List.mem_cons.mp member with rfl | later
      · exact absurd smaller (lt_irrefl _)
      · exact absurd (above.1 other later) (lt_asymm smaller)
  · rintro ⟨member, found, least⟩
    obtain ⟨before, behind, rfl⟩ := List.append_of_mem member
    refine ⟨before, name, behind, rfl, by simp [found], fun other earlier => ?_⟩
    have smaller :=
      (List.pairwise_append.mp ascending).2.2 other earlier name
        List.mem_cons_self
    simp [least other (List.mem_append_left _ earlier) smaller]

theorem firstFailure?_eq_some_iff (wellFormed : session.registry.WellFormed)
    {name : String} {error : PluginError} :
    session.firstFailure? call = some (name, error) ↔
      name ∈ session.registry.active ∧ session.failure? call name = some error ∧
        ∀ other ∈ session.registry.active, other < name →
          session.failure? call other = none :=
  findSome?_eq_some_iff_least wellFormed.ascending

theorem subset_active_of_upToStop (session : Session) (call : PluginCall) :
    session.upToStop call ⊆ session.registry.active := by
  intro name member
  rcases List.mem_append.mp member with before | last
  · exact List.takeWhile_subset _ before
  · exact List.mem_of_find?_eq_some (Option.mem_toList.mp last)

theorem active_of_called (wellFormed : session.registry.WellFormed)
    (request : PluginRequest) {called : String × PluginCall}
    (member : called ∈ request.work.calls session) :
    called.1 ∈ session.registry.active := by
  cases request with
  | register plugin =>
      rw [PluginRequest.work, Work.callsNone_register plugin session] at member
      cases member
  | activate names =>
      rw [PluginRequest.work,
        Work.callsNone_activateNames names session] at member
      cases member
  | deactivate name =>
      rw [PluginRequest.work, Work.callsNone_changeRegistry _ session] at member
      cases member
  | prepare =>
      rw [PluginRequest.work,
        (Work.makes_prepareActive wellFormed).made] at member
      obtain ⟨name, stands, rfl⟩ := List.mem_map.mp member
      exact session.subset_active_of_upToStop _ stands
  | present view =>
      rw [PluginRequest.work,
        (Work.makes_activateAll wellFormed view).made] at member
      obtain ⟨name, stands, rfl⟩ := List.mem_map.mp member
      exact session.subset_active_of_upToStop _ stands
  | cleanup =>
      rw [PluginRequest.work, (Work.makes_cleanup wellFormed).made] at member
      obtain ⟨name, stands, rfl⟩ := List.mem_map.mp member
      exact stands

/-- Preparing and showing a unit go up to the first active plugin that fails,
and report its error with its name or as it is; only showing a unit can crash.
Cleaning up goes through all active plugins and reports the error of the least
name that fails.  No request calls a plugin that is not active. -/
theorem failures_of_active (wellFormed : session.registry.WellFormed)
    (view : UnitView) :
    session.registry.active.Pairwise (· < ·) ∧
      Work.Makes Work.prepareActive session
        (.value (PluginError.result
          ((session.firstFailure? .prepare).map fun failed =>
            .load failed.1 failed.2.message)))
        ((session.upToStop .prepare).map (·, .prepare)) ∧
      (session.stop? .prepare = fun name =>
        (session.failure? .prepare name).map .value) ∧
      Work.Makes (Work.activateAll view) session
        (match session.firstStop? (.activate view) with
          | none => .value (.ok ())
          | some (_, .value error) => .value (.error error)
          | some (_, .crash) => .crash)
        ((session.upToStop (.activate view)).map (·, .activate view)) ∧
      Work.Makes Work.cleanup session
        (.value (PluginError.result
          ((session.firstFailure? .cleanup).map Prod.snd)))
        (session.registry.active.map (·, .cleanup)) ∧
      (∀ call name error, session.firstFailure? call = some (name, error) ↔
        name ∈ session.registry.active ∧
        session.failure? call name = some error ∧
        ∀ other ∈ session.registry.active, other < name →
          session.failure? call other = none) ∧
      ∀ request : PluginRequest, ∀ called ∈ request.work.calls session,
        called.1 ∈ session.registry.active :=
  ⟨wellFormed.ascending, Work.makes_prepareActive wellFormed,
    stop?_of_returns Plugin.crashed_prepare session,
    Work.makes_activateAll wellFormed view, Work.makes_cleanup wellFormed,
    fun _ _ _ => firstFailure?_eq_some_iff wellFormed,
    fun request _ => active_of_called wellFormed request⟩

/-- Two of three active plugins fail, and a fourth that would fail is not
active. -/
theorem failures_of_active_for_two :
    let info (name : String) : PluginInfo :=
      ⟨name, "1.0.0", "", "", 20250101, false⟩
    let working : Plugin := .custom (info "a") (fun _ => true) fun _ => none
    let failing (name : String) : Plugin :=
      .custom (info name) (fun _ => true) fun call =>
        some (.generic (name ++ call.operation))
    let session := (Session.start 20250101 .report .fresh ⟨[], [], none⟩).after
      [.register (failing "d"), .register (failing "c"),
        .register (failing "b"), .register working, .activate ["c", "a", "b"]]
    let view : UnitView := ⟨"q.sql", .empty, []⟩
    Work.Makes Work.prepareActive session
      (.value (.error (.load "b" "binitialize")))
        [("a", .prepare), ("b", .prepare)] ∧
      Work.Makes (Work.activateAll view) session
        (.value (.error (.generic "bactivate")))
        [("a", .activate view), ("b", .activate view)] ∧
      Work.Makes Work.cleanup session (.value (.error (.generic "bcleanup")))
        [("a", .cleanup), ("b", .cleanup), ("c", .cleanup)] := by
  intro info working failing session view
  have recounts :=
    Recounts.of_requests (show (Session.start 20250101 .report .fresh
      ⟨[], [], none⟩).registry = .empty from rfl)
    [.register (failing "d"), .register (failing "c"), .register (failing "b"),
      .register working, .activate ["c", "a", "b"]]
  have wellFormed : session.registry.WellFormed := recounts.wellFormed
  obtain ⟨-, prepared, -, presented, cleaned, -⟩ :=
    failures_of_active wellFormed view
  have active : session.registry.active = ["a", "b", "c"] := by decide +kernel
  have toPrepare : session.upToStop .prepare = ["a", "b"] := by decide +kernel
  have toPresent : session.upToStop (.activate view) = ["a", "b"] := by
    decide +kernel
  refine ⟨?_, ?_, ?_⟩
  · rwa [toPrepare, show session.firstFailure? .prepare =
      some ("b", .generic "binitialize") by decide +kernel] at prepared
  · rwa [toPresent, show session.firstStop? (.activate view) =
      some ("b", .value (.generic "bactivate")) by decide +kernel] at presented
  · rwa [active, show session.firstFailure? .cleanup =
      some ("b", .generic "bcleanup") by decide +kernel] at cleaned

end Session

end QueryLint
