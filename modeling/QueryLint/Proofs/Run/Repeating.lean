import QueryLint.Proofs.Plugin.Calling
import QueryLint.Proofs.Run.Drain
import QueryLint.Proofs.Run.Skipping

/-!
# Runs that do not see earlier runs

A run leaves counts in plugins, totals in the console and text in sinks.  A
later run does not see any of it: `Work.Repeats` says that work comes to the
same in every session that linting may have changed, and that it adds the same
to every total.
-/

namespace QueryLint

namespace Console

/-- A total that the console keeps. -/
inductive Total where
  | warnings
  | errors
  | failures
  deriving DecidableEq, Repr

def total (console : Console) : Total → Nat
  | .warnings => console.warnings
  | .errors => console.errors
  | .failures => console.failures

/-- Whatever the console has come to, the call adds as much to every total. -/
def Adds (call : Console → Sink → ConsoleCall) (amount : Total → Nat) : Prop :=
  ∀ console sink total,
    (call console sink).console.total total = console.total total + amount total

theorem total_writeLine (console : Console) (sink : Sink) (line : String)
    (total : Total) :
    (console.writeLine sink line).console.total total =
      console.total total := by
  unfold writeLine
  split_ifs
  · rfl
  · split <;> rfl

theorem exists_adds_reportFailure (unit error : String) :
    ∃ amount, Adds (fun console sink => console.reportFailure sink unit error)
      amount := by
  refine ⟨fun total => if total = .failures then 1 else 0, ?_⟩
  intro console sink total
  simp only [reportFailure, total_writeLine]
  cases total <;> rfl

theorem exists_adds_reportViolation (violation : Violation) :
    ∃ amount, Adds (fun console sink => console.reportViolation sink violation)
      amount := by
  cases severity : violation.severity with
  | off =>
      refine ⟨fun _ => 0, ?_⟩
      intro console sink total
      simp [reportViolation, severity]
  | warning =>
      refine ⟨fun total => if total = .warnings then 1 else 0, ?_⟩
      intro console sink total
      simp only [reportViolation, severity, reduceCtorEq, if_false,
        total_writeLine]
      cases total <;> rfl
  | error =>
      refine ⟨fun total => if total = .errors then 1 else 0, ?_⟩
      intro console sink total
      simp only [reportViolation, severity, reduceCtorEq, if_false,
        total_writeLine]
      cases total <;> rfl

end Console

theorem Session.Steady.symm {before after : Session}
    (steady : before.Steady after) :
    after.Steady before :=
  ⟨steady.active.symm, fun name => (steady.plugins name).symm,
    steady.outlet.symm, steady.devices.symm, steady.unusable.symm⟩

/-- What work has come to in two sessions: the same end, the same calls of
consumers and the same reports, as much more in every total, and sessions kept
steady. -/
structure Done.Repeats {α : Type} (before after : Session)
    (first second : Done α) :
    Prop where
  ending : first.ending = second.ending
  kept : before.Steady first.session
  keptLater : after.Steady second.session
  deliveries : first.journal.filterMap Entry.delivery? =
    second.journal.filterMap Entry.delivery?
  reports : first.journal.filterMap Entry.report? =
    second.journal.filterMap Entry.report?
  totals : ∀ total, ∃ amount,
    first.session.console.total total = before.console.total total + amount ∧
      second.session.console.total total = after.console.total total + amount

namespace Work

variable {α β : Type}

/-- In sessions that differ by linting at most, the work comes to the same. -/
def Repeats (work : Work α) : Prop :=
  ∀ before after : Session, before.Steady after → before.Reports →
    Done.Repeats before after (work before) (work after)

namespace Repeats

/-- Work that leaves the session as it is and always tells the same. -/
theorem ofConstant {work : Work α} {ending : Ending α} {entries : List Entry}
    (constant : ∀ session, work session = ⟨ending, session, entries⟩) :
    Repeats work := by
  intro before after _ _
  rw [constant before, constant after]
  exact ⟨rfl, .refl before, .refl after, rfl, rfl, fun _ => ⟨0, rfl, rfl⟩⟩

theorem pure (value : α) : Repeats (Pure.pure value : Work α) :=
  ofConstant fun _ => rfl

theorem crash : Repeats (Work.crash : Work α) :=
  ofConstant fun _ => rfl

theorem enter (entries : List Entry) : Repeats (Work.enter entries) :=
  ofConstant fun _ => rfl

theorem note (records : List Log.Record) : Repeats (Work.note records) :=
  enter _

theorem bind {first : Work α} {next : α → Work β} (earlier : Repeats first)
    (later : ∀ value, Repeats (next value)) : Repeats (first >>= next) := by
  intro before after steady reports
  have one := earlier before after steady reports
  change Done.Repeats before after (Work.bind first next before)
    (Work.bind first next after)
  unfold Work.bind
  cases firstDone : first before with
  | mk ending firstAfter firstJournal =>
      cases secondDone : first after with
      | mk otherEnding secondAfter secondJournal =>
          rw [firstDone, secondDone] at one
          obtain ⟨ended, kept, keptLater, deliveries, reported, totals⟩ := one
          cases ended
          cases ending with
          | crash => exact ⟨rfl, kept, keptLater, deliveries, reported, totals⟩
          | value value =>
              have between : firstAfter.Steady secondAfter :=
                (kept.symm.trans steady).trans keptLater
              have two :=
                later value firstAfter secondAfter between
                  (kept.reports reports)
              refine ⟨two.ending, kept.trans two.kept,
                keptLater.trans two.keptLater, ?_, ?_, ?_⟩
              · simp only [List.filterMap_append]
                rw [deliveries, two.deliveries]
              · simp only [List.filterMap_append]
                rw [reported, two.reports]
              · intro total
                obtain ⟨amount, firstAdded, secondAdded⟩ := totals total
                obtain ⟨more, firstMore, secondMore⟩ := two.totals total
                refine ⟨amount + more, ?_, ?_⟩
                · exact firstMore.trans (by rw [firstAdded, Nat.add_assoc])
                · exact secondMore.trans (by rw [secondAdded, Nat.add_assoc])

end Repeats

private theorem console_callConsole (call : Console → Sink → ConsoleCall)
    (session : Session) :
    (callConsole call session).session.console =
      (call session.console
        (session.sinks.get session.consoleOutlet)).console := by
  have last : ∀ (crashed : Bool) (after : Session),
      ((if crashed then crash else Work.pure () : Work Unit) after).session =
        after := by
    intro crashed after
    cases crashed <;> rfl
  exact congrArg Session.console (last _ _)

theorem repeats_callConsole {call : Console → Sink → ConsoleCall}
    (uniform : Console.Uniform call)
    (adds : ∃ amount, Console.Adds call amount) :
    Repeats (callConsole call) := by
  intro before after steady reports
  obtain ⟨amount, adds⟩ := adds
  have first := gives_callConsole uniform reports
  have second := gives_callConsole uniform (steady.reports reports)
  constructor
  · exact first.ending.trans second.ending.symm
  · exact first.steady
  · exact second.steady
  · exact first.deliveries.trans second.deliveries.symm
  · exact (reports_callConsole call before).trans
      (reports_callConsole call after).symm
  · intro total
    refine ⟨amount total, ?_, ?_⟩
    · rw [console_callConsole, adds]
    · rw [console_callConsole, adds]

theorem repeats_reportViolation (violation : Violation) :
    Repeats (reportViolation violation) :=
  (Repeats.enter _).bind fun _ =>
    repeats_callConsole (Console.uniform_reportViolation violation)
      (Console.exists_adds_reportViolation violation)

theorem repeats_reportFailure (unit error : String) :
    Repeats (reportFailure unit error) :=
  (Repeats.enter _).bind fun _ =>
    repeats_callConsole (Console.uniform_reportFailure unit error)
      (Console.exists_adds_reportFailure unit error)

theorem repeats_passVerdicts (verdicts : List Verdict) :
    Repeats (passVerdicts verdicts) := by
  induction verdicts with
  | nil => exact Repeats.pure ()
  | cons verdict others ih =>
      have passed : Repeats (passVerdict verdict) := by
        cases verdict with
        | reported violation => exact repeats_reportViolation violation
        | silenced => exact Repeats.note _
      exact passed.bind fun _ => ih

theorem repeats_visit (visitor : Visitor) (view : UnitView) :
    Repeats (visit visitor view) :=
  (Repeats.enter _).bind fun _ =>
    (repeats_passVerdicts _).bind fun _ => Repeats.pure _

/-- A plugin that has seen a unit has changed nothing by which linting goes. -/
private theorem steady_answer {session : Session} {name : String}
    {plugin : Plugin} (found : session.registry.find? name = some plugin)
    (view : UnitView) :
    let answer := plugin.answer (.activate view) session.sinks
    session.Steady
      { session with
        registry := session.registry.update name answer.plugin
        sinks := answer.sinks } := by
  obtain ⟨-, -, after, devices, -⟩ := plugin.answer_activate view session.sinks
  refine ⟨rfl, ?_, rfl, devices, rfl⟩
  apply Registry.update_settled found
  rw [after, plugin.shown_settled]

theorem repeats_callPlugin (name : String) (view : UnitView) :
    Repeats (callPlugin name (.activate view)) := by
  intro before after steady _
  have kept := steady.plugins name
  cases found : before.registry.find? name with
  | none =>
      rw [found] at kept
      rw [callPlugin_of_missing found,
        callPlugin_of_missing (Option.map_eq_none_iff.mp kept)]
      exact ⟨rfl, .refl before, .refl after, rfl, rfl, fun _ => ⟨0, rfl, rfl⟩⟩
  | some plugin =>
      rw [found] at kept
      obtain ⟨other, otherFound, settled⟩ := Option.map_eq_some_iff.mp kept
      obtain ⟨crashed, error, -, -, silent⟩ :=
        plugin.answer_activate view before.sinks
      obtain ⟨otherCrashed, otherError, -, -, otherSilent⟩ :=
        other.answer_activate view after.sinks
      have outcome : (other.shown after.sinks.device view).1 =
          (plugin.shown before.sinks.device view).1 := by
        rw [steady.devices]
        exact Plugin.shown_congr settled _ view
      rw [callPlugin_of_found found, callPlugin_of_found otherFound, silent,
        otherSilent]
      constructor
      · simp only [crashed, error, otherCrashed, otherError, outcome]
      · exact steady_answer found view
      · exact steady_answer otherFound view
      · simp [Entry.delivery?, Plugin.name_of_settled settled]
      · rfl
      · exact fun _ => ⟨0, rfl, rfl⟩

theorem repeats_callUntilFailure (names : List String) (view : UnitView) :
    Repeats (callUntilFailure (.activate view) names) := by
  induction names with
  | nil => exact Repeats.pure none
  | cons name others ih =>
      refine (repeats_callPlugin name view).bind fun error? => ?_
      cases error? with
      | none => exact ih
      | some error => exact Repeats.pure _

theorem repeats_activateAll (view : UnitView) : Repeats (activateAll view) := by
  intro before after steady
  have whole :
      Repeats (callUntilFailure (.activate view) before.registry.active >>=
        fun failure? =>
          failure?.elim (pure (Except.ok ()) : Work (Except PluginError Unit))
            fun failure => pure (Except.error failure.2)) := by
    refine (repeats_callUntilFailure _ view).bind fun failure? => ?_
    cases failure? <;> exact Repeats.pure _
  have opened (session : Session) : activateAll view session =
      (callUntilFailure (.activate view) session.registry.active >>=
        fun failure? =>
          failure?.elim (pure (Except.ok ()) : Work (Except PluginError Unit))
            fun failure => pure (Except.error failure.2)) session := by
    refine congrFun (congrArg
      (callUntilFailure (.activate view) session.registry.active >>= ·)
      (funext fun failure? => ?_)) session
    cases failure? <;> rfl
  rw [opened before, opened after, steady.active]
  exact whole before after steady

variable (setup : RunSetup)

theorem repeats_dispatch (content : Content) (suppressions : Suppressions) :
    Repeats (dispatch setup content suppressions) := by
  refine (Repeats.note _).bind fun _ => ?_
  refine (repeats_visit _ _).bind fun error? => ?_
  cases error? with
  | some error => exact Repeats.pure _
  | none =>
      refine (repeats_activateAll _).bind fun result => ?_
      cases result <;> exact Repeats.pure _

theorem repeats_drain (contents : List Content) (report : RunReport) :
    Repeats (drain setup contents report) := by
  induction contents generalizing report with
  | nil => exact Repeats.pure _
  | cons content rest ih =>
      rw [drain]
      refine (Repeats.note _).bind fun _ => (Repeats.note _).bind fun _ => ?_
      split_ifs
      · exact (Repeats.note _).bind fun _ => (Repeats.enter _).bind fun _ =>
          ih _
      · refine (repeats_dispatch setup content _).bind fun source? => ?_
        cases source? with
        | some source =>
            refine (Repeats.enter _).bind fun _ =>
              (Repeats.note _).bind fun _ => ?_
            exact Repeats.pure _
        | none => exact (Repeats.enter _).bind fun _ => ih _

theorem repeats_reportFailures (failures : List StageFailure) :
    Repeats (reportFailures failures) := by
  induction failures with
  | nil => exact Repeats.pure ()
  | cons failure others ih =>
      refine (Repeats.note _).bind fun _ => ?_
      exact (repeats_reportFailure _ _).bind fun _ => ih

/-- A run comes to the same whatever has been linted before. -/
theorem repeats_runTaken (units : List String) (intake : Intake) :
    Repeats (runTaken setup units intake) := by
  unfold runTaken
  refine (Repeats.note _).bind fun _ => ?_
  split_ifs
  · exact Repeats.crash
  · refine (Repeats.enter _).bind fun _ =>
      (repeats_reportFailures _).bind fun _ => ?_
    refine (repeats_drain setup _ _).bind fun report => ?_
    cases report with
    | error error => exact Repeats.pure _
    | ok report => exact (Repeats.note _).bind fun _ => Repeats.pure _

end Work

end QueryLint
