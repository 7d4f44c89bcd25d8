import QueryLint.Proofs.Output.Writing
import QueryLint.Proofs.Staging.Accounts
import QueryLint.Session.Reporting

/-!
# Work that leaves a session steady

Linting changes totals, texts in sinks and counts of plugins.  None of them
decides how later work ends.  `Session.Steady` says that everything that does
decide has stayed, and `Work.Gives` says what work comes to in such a session:
the value, the units that have reached consumers, and the contents given up.
-/

namespace QueryLint

/-- A unit that reaches the visitor or the plugin of a name. -/
inductive Delivery where
  | visitor (view : UnitView)
  | plugin (name : String) (view : UnitView)
  deriving DecidableEq, Repr

/-- The delivery of which the entry tells, if it does. -/
def Entry.delivery? : Entry → Option Delivery
  | visited view => some (.visitor view)
  | called plugin (.activate view) => some (.plugin plugin.name view)
  | _ => none

theorem Entry.delivery?_of_isInternal {entry : Entry}
    (isInternal : entry.isInternal = true) : entry.delivery? = none := by
  cases entry with
  | noted => rfl
  | released => rfl
  | visited => cases isInternal
  | called => cases isInternal
  | reported => cases isInternal
  | failed => cases isInternal

/-- The plugin without its count of units. -/
def Plugin.settled : Plugin → Plugin
  | .dump state outlet => .dump { state with dumped := 0 } outlet
  | .custom info accepts respond => .custom info accepts respond

namespace Sinks

/-- The device behind the sink of an outlet. -/
def device (sinks : Sinks) (outlet : Outlet) : Device :=
  (sinks.get outlet).device

theorem device_set (sinks : Sinks) (outlet : Outlet) (sink : Sink) :
    (sinks.set outlet sink).device =
      Function.update sinks.device outlet sink.device := by
  funext other
  cases outlet <;> cases other <;> rfl

theorem device_set_of_same {sinks : Sinks} {outlet : Outlet} {sink : Sink}
    (same : sink.device = sinks.device outlet) :
    (sinks.set outlet sink).device = sinks.device := by
  rw [device_set, same, Function.update_eq_self]

end Sinks

namespace Session

/-- Whatever decides how linting a unit ends is the same after as before. -/
structure Steady (before after : Session) : Prop where
  active : after.registry.active = before.registry.active
  plugins : ∀ name, (after.registry.find? name).map Plugin.settled =
    (before.registry.find? name).map Plugin.settled
  outlet : after.consoleOutlet = before.consoleOutlet
  devices : after.sinks.device = before.sinks.device
  unusable : after.console.unusable = before.console.unusable

/-- Whatever is reported, the console of the session returns. -/
def Reports (session : Session) : Prop :=
  session.console.Returns (session.sinks.device session.consoleOutlet)

namespace Steady

theorem refl (session : Session) : session.Steady session :=
  ⟨rfl, fun _ => rfl, rfl, rfl, rfl⟩

theorem trans {first second third : Session}
    (earlier : first.Steady second) (later : second.Steady third) :
    first.Steady third :=
  ⟨later.active.trans earlier.active,
    fun name => (later.plugins name).trans (earlier.plugins name),
    later.outlet.trans earlier.outlet,
    later.devices.trans earlier.devices,
    later.unusable.trans earlier.unusable⟩

theorem reports {before after : Session} (steady : before.Steady after)
    (reports : before.Reports) : after.Reports := by
  unfold Reports Console.Returns at *
  rw [steady.unusable, steady.outlet, steady.devices]
  exact reports

end Steady

end Session

namespace Work

variable {α β : Type}

/-- Work ends with the value and leaves the session steady; the deliveries are
those it has made, and the releases are the contents it has given up. -/
structure Gives (work : Work α) (session : Session) (value : α)
    (deliveries : List Delivery) (releases : List Content) : Prop where
  ending : (work session).ending = .value value
  steady : session.Steady (work session).session
  deliveries : (work session).journal.filterMap Entry.delivery? = deliveries
  releases : (work session).journal.filterMap Entry.release? = releases

/-- Work that ends with a value is followed by the rest. -/
theorem bind_of_value {first : Work α} {session : Session} {value : α}
    (ending : (first session).ending = .value value) (next : α → Work β) :
    (first >>= next) session =
      ⟨(next value (first session).session).ending,
        (next value (first session).session).session,
        (first session).journal ++
          (next value (first session).session).journal⟩ := by
  change Work.bind first next session = _
  unfold Work.bind
  cases done : first session with
  | mk ending' after journal =>
      rw [done] at ending
      simp only at ending
      subst ending
      rfl

/-- Work that crashes is followed by nothing. -/
theorem bind_of_crash {first : Work α} {session : Session}
    (ending : (first session).ending = .crash) (next : α → Work β) :
    (first >>= next) session =
      ⟨.crash, (first session).session, (first session).journal⟩ := by
  change Work.bind first next session = _
  unfold Work.bind
  cases done : first session with
  | mk ending' after journal =>
      rw [done] at ending
      obtain rfl : ending' = .crash := ending
      rfl

namespace Gives

variable {session : Session}

theorem pure (session : Session) (value : α) :
    Gives (Pure.pure value : Work α) session value [] [] :=
  ⟨rfl, .refl session, rfl, rfl⟩

theorem bind
    {first : Work α} {next : α → Work β} {value : α} {result : β}
    {earlierDeliveries laterDeliveries : List Delivery}
    {earlierReleases laterReleases : List Content}
    (earlier : Gives first session value earlierDeliveries earlierReleases)
    (later : ∀ after, session.Steady after →
      Gives (next value) after result laterDeliveries laterReleases) :
    Gives (first >>= next) session result (earlierDeliveries ++ laterDeliveries)
      (earlierReleases ++ laterReleases) := by
  obtain ⟨ending, steady, deliveries, releases⟩ := earlier
  have rest := later _ steady
  have unfolded := bind_of_value ending next
  constructor
  · rw [unfolded]
    exact rest.ending
  · rw [unfolded]
    exact steady.trans rest.steady
  · rw [unfolded, List.filterMap_append, deliveries, rest.deliveries]
  · rw [unfolded, List.filterMap_append, releases, rest.releases]

/-- Work that makes no delivery and gives nothing up can come first unseen. -/
theorem bindQuiet
    {first : Work α} {next : α → Work β} {value : α} {result : β}
    {deliveries : List Delivery} {releases : List Content}
    (earlier : Gives first session value [] [])
    (later : ∀ after, session.Steady after →
      Gives (next value) after result deliveries releases) :
    Gives (first >>= next) session result deliveries releases :=
  earlier.bind later

/-- Such work can come last unseen as well. -/
theorem bindDone
    {first : Work α} {next : α → Work β} {value : α} {result : β}
    {deliveries : List Delivery} {releases : List Content}
    (earlier : Gives first session value deliveries releases)
    (later : ∀ after, session.Steady after →
      Gives (next value) after result [] []) :
    Gives (first >>= next) session result deliveries releases := by
  have both := earlier.bind later
  rwa [List.append_nil, List.append_nil] at both

/-- Deliveries may be followed by giving contents up. -/
theorem bindRelease
    {first : Work α} {next : α → Work β} {value : α} {result : β}
    {deliveries : List Delivery} {releases : List Content}
    (earlier : Gives first session value deliveries [])
    (later : ∀ after, session.Steady after →
      Gives (next value) after result [] releases) :
    Gives (first >>= next) session result deliveries releases := by
  have both := earlier.bind later
  rwa [List.append_nil, List.nil_append] at both

theorem ofSession
    {next : Session → Work β} {result : β}
    {deliveries : List Delivery} {releases : List Content}
    (later : Gives (next session) session result deliveries releases) :
    Gives (Work.session >>= next) session result deliveries releases :=
  ⟨later.ending, later.steady, later.deliveries, later.releases⟩

theorem enter (session : Session) (entries : List Entry) :
    Gives (Work.enter entries) session () (entries.filterMap Entry.delivery?)
      (entries.filterMap Entry.release?) :=
  ⟨rfl, .refl session, rfl, rfl⟩

theorem note (session : Session) (records : List Log.Record) :
    Gives (Work.note records) session () [] [] := by
  refine ⟨rfl, .refl session, ?_, ?_⟩
  · change (records.map Entry.noted).filterMap Entry.delivery? = []
    simp [List.filterMap_map, Function.comp_def, Entry.delivery?]
  · change (records.map Entry.noted).filterMap Entry.release? = []
    simp [List.filterMap_map, Function.comp_def, Entry.release?]

theorem release (session : Session) (contents : List Content) :
    Gives (Work.enter (contents.map .released)) session () [] contents := by
  refine ⟨rfl, .refl session, ?_, ?_⟩
  · change (contents.map Entry.released).filterMap Entry.delivery? = []
    simp [List.filterMap_map, Function.comp_def, Entry.delivery?]
  · change (contents.map Entry.released).filterMap Entry.release? = contents
    simp [List.filterMap_map, Function.comp_def, Entry.release?]

theorem modify {change : Session → Session}
    (steady : session.Steady (change session)) :
    Gives (Work.modify change) session () [] [] :=
  ⟨rfl, steady, rfl, rfl⟩

end Gives

/-- A call to a console that returns. -/
theorem gives_callConsole
    {session : Session} {call : Console → Sink → ConsoleCall}
    (uniform : Console.Uniform call) (reports : session.Reports) :
    Gives (callConsole call) session () [] [] := by
  apply Gives.ofSession
  obtain ⟨crashed, unusable⟩ := uniform.returns session.console
    (session.sinks.get session.consoleOutlet) reports
  refine Gives.bindQuiet
    (Gives.modify ⟨rfl, fun _ => rfl, rfl, ?_, unusable⟩) ?_
  · exact Sinks.device_set_of_same (uniform.device _ _)
  · intro after _
    refine Gives.bindQuiet (Gives.note after _) ?_
    intro later _
    rw [if_neg (by simp [crashed])]
    exact Gives.pure later ()

theorem gives_reportViolation
    {session : Session} (reports : session.Reports) (violation : Violation) :
    Gives (reportViolation violation) session () [] [] :=
  Gives.bindQuiet (Gives.enter session [.reported violation]) fun _ steady =>
    gives_callConsole (Console.uniform_reportViolation violation)
      (steady.reports reports)

theorem gives_reportFailure
    {session : Session} (reports : session.Reports) (unit error : String) :
    Gives (reportFailure unit error) session () [] [] :=
  Gives.bindQuiet (Gives.enter session [.failed unit error]) fun _ steady =>
    gives_callConsole (Console.uniform_reportFailure unit error)
      (steady.reports reports)

end Work

end QueryLint
