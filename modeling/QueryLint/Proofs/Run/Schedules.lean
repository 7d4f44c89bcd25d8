import QueryLint.Proofs.Run.Accounting

/-!
# Runs that differ in the order of their units

Two runs over the same units, named and staged in different orders, drain the
same contents.  `Work.Agrees` relates work that ends alike in sessions which
differ in the text of their sinks alone; the drains of both runs are related by
it, so that only failure reports and log records can come in another order.
-/

namespace QueryLint

/-- A consumer is called, or a violation is reported. -/
def Entry.isConsumer : Entry → Bool
  | visited _ => true
  | called _ _ => true
  | reported _ => true
  | _ => false

/-- A unit that could not be loaded is reported. -/
def Entry.isFailure : Entry → Bool
  | failed _ _ => true
  | _ => false

private theorem filter_internal {seen : Entry → Bool} {entries : List Entry}
    (unseen : ∀ entry, entry.isInternal = true → seen entry = false)
    (quiet : ∀ entry ∈ entries, entry.isInternal = true) :
    entries.filter seen = [] := by
  apply List.filter_eq_nil_iff.mpr
  intro entry member
  simp [unseen entry (quiet entry member)]

theorem Entry.isConsumer_of_isInternal (entry : Entry)
    (isInternal : entry.isInternal = true) : entry.isConsumer = false := by
  cases entry with
  | noted => rfl
  | released => rfl
  | _ => cases isInternal

theorem Entry.isFailure_of_isInternal (entry : Entry)
    (isInternal : entry.isInternal = true) : entry.isFailure = false := by
  cases entry with
  | failed => cases isInternal
  | _ => rfl

/-- The totals are the same, and so are the failures up to their order. -/
structure RunReport.Agrees (left right : RunReport) : Prop where
  staged : left.staged = right.staged
  dispatched : left.dispatched = right.dispatched
  skipped : left.skipped = right.skipped
  released : left.released = right.released
  failures : left.failures.Perm right.failures

/-- Both runs have the same error, or reports that agree. -/
def RunReport.EndAlike :
    Except RunError RunReport → Except RunError RunReport → Prop
  | .ok left, .ok right => left.Agrees right
  | .error left, .error right => left = right
  | _, _ => False

/-- As many units could be loaded, and the runs end alike. -/
structure RunResult.Agrees (left right : RunResult) : Prop where
  fileCount : left.fileCount = right.fileCount
  report : RunReport.EndAlike left.report right.report

namespace Session

/-- The sessions differ in the text that their sinks have taken at most. -/
structure Alike (left right : Session) : Prop where
  apiVersion : left.apiVersion = right.apiVersion
  registry : left.registry = right.registry
  console : left.console = right.console
  consoleOutlet : left.consoleOutlet = right.consoleOutlet
  devices : left.sinks.device = right.sinks.device
  files : left.files = right.files

theorem Alike.refl (session : Session) : session.Alike session :=
  ⟨rfl, rfl, rfl, rfl, rfl, rfl⟩

end Session

/-- Both end with related values, or both crash. -/
def Ending.Agrees {α : Type} (related : α → α → Prop) :
    Ending α → Ending α → Prop
  | .value left, .value right => related left right
  | .crash, .crash => True
  | _, _ => False

/-- Work ends alike, in sessions that are alike, and its journals agree in the
entries that are seen. -/
structure Done.Agrees {α : Type} (seen : Entry → Bool) (related : α → α → Prop)
    (left right : Done α) : Prop where
  ending : left.ending.Agrees related right.ending
  session : left.session.Alike right.session
  journal : left.journal.filter seen = right.journal.filter seen

namespace Work

variable {α β : Type} {seen : Entry → Bool}

/-- In sessions that are alike, the work ends alike. -/
def Agrees (seen : Entry → Bool) (related : α → α → Prop)
    (left right : Work α) :
    Prop :=
  ∀ leftSession rightSession, leftSession.Alike rightSession →
    (left leftSession).Agrees seen related (right rightSession)

namespace Agrees

variable {related : α → α → Prop} {relatedAfter : β → β → Prop}

theorem pure {left right : α} (same : related left right) :
    Agrees seen related (Pure.pure left) (Pure.pure right) :=
  fun _ _ alike => ⟨same, alike, rfl⟩

theorem crash : Agrees seen related (Work.crash : Work α) Work.crash :=
  fun _ _ alike => ⟨trivial, alike, rfl⟩

theorem bind {left right : Work α} {leftNext rightNext : α → Work β}
    (first : Agrees seen related left right)
    (later : ∀ leftValue rightValue, related leftValue rightValue →
      Agrees seen relatedAfter (leftNext leftValue) (rightNext rightValue)) :
    Agrees seen relatedAfter (left >>= leftNext) (right >>= rightNext) := by
  intro leftSession rightSession alike
  obtain ⟨ending, session, journal⟩ := first leftSession rightSession alike
  change (Work.bind left leftNext leftSession).Agrees seen relatedAfter
    (Work.bind right rightNext rightSession)
  unfold Work.bind
  cases leftDone : left leftSession with
  | mk leftEnding leftAfter leftJournal =>
      cases rightDone : right rightSession with
      | mk rightEnding rightAfter rightJournal =>
          rw [leftDone, rightDone] at ending session journal
          cases leftEnding with
          | crash =>
              cases rightEnding with
              | crash => exact ⟨trivial, session, journal⟩
              | value => exact ending.elim
          | value leftValue =>
              cases rightEnding with
              | crash => exact ending.elim
              | value rightValue =>
                  obtain ⟨laterEnding, laterSession, laterJournal⟩ :=
                    later leftValue rightValue ending leftAfter rightAfter
                      session
                  refine ⟨laterEnding, laterSession, ?_⟩
                  simp only [List.filter_append]
                  rw [journal, laterJournal]

theorem session : Agrees seen Session.Alike Work.session Work.session :=
  fun _ _ alike => ⟨alike, alike, rfl⟩

theorem modify {leftChange rightChange : Session → Session}
    (alike : ∀ left right, Session.Alike left right →
      (leftChange left).Alike (rightChange right)) :
    Agrees seen Eq (Work.modify leftChange) (Work.modify rightChange) :=
  fun left right before => ⟨rfl, alike left right before, rfl⟩

theorem enter {left right : List Entry}
    (same : left.filter seen = right.filter seen) :
    Agrees seen Eq (Work.enter left) (Work.enter right) :=
  fun _ _ alike => ⟨rfl, alike, same⟩

theorem note (unseen : ∀ record, seen (.noted record) = false)
    (left right : List Log.Record) :
    Agrees seen Eq (Work.note left) (Work.note right) := by
  have nothing : ∀ records : List Log.Record,
      (records.map Entry.noted).filter seen = [] := by
    intro records
    apply List.filter_eq_nil_iff.mpr
    intro entry member
    obtain ⟨record, -, rfl⟩ := List.mem_map.mp member
    simp [unseen record]
  exact enter ((nothing left).trans (nothing right).symm)

end Agrees

section

variable (unseen : ∀ record, seen (.noted record) = false)

include unseen

theorem agrees_callConsole {call other : Console → Sink → ConsoleCall}
    (uniform : Console.Uniform call) (otherUniform : Console.Uniform other)
    (interchangeable : Console.Interchangeable call other) :
    Agrees seen Eq (callConsole call) (callConsole other) := by
  refine Agrees.session.bind fun left right alike => ?_
  have devices : (left.sinks.get left.consoleOutlet).device =
      (right.sinks.get right.consoleOutlet).device := by
    have same := congrFun alike.devices left.consoleOutlet
    rwa [alike.consoleOutlet] at same ⊢
  obtain ⟨console, crashed⟩ := interchangeable left.console _ _ devices
  rw [alike.console] at console crashed
  rw [alike.console]
  refine Agrees.bind (Agrees.modify ?_) fun _ _ _ => ?_
  · intro leftInner rightInner inner
    refine ⟨inner.apiVersion, inner.registry, console, inner.consoleOutlet, ?_,
      inner.files⟩
    simp only [Sinks.device_set, uniform.device, otherUniform.device,
      inner.devices, inner.consoleOutlet, devices]
  refine Agrees.bind (Agrees.note unseen _ _) fun _ _ _ => ?_
  simp only [crashed]
  split_ifs
  · exact Agrees.crash
  · exact Agrees.pure rfl

theorem agrees_reportViolation (violation : Violation) :
    Agrees seen Eq (reportViolation violation) (reportViolation violation) :=
  (Agrees.enter rfl).bind fun _ _ _ =>
    agrees_callConsole unseen (Console.uniform_reportViolation violation)
      (Console.uniform_reportViolation violation)
      (Console.interchangeable_reportViolation violation)

theorem agrees_passVerdicts (verdicts : List Verdict) :
    Agrees seen Eq (passVerdicts verdicts) (passVerdicts verdicts) := by
  induction verdicts with
  | nil => exact Agrees.pure rfl
  | cons verdict others ih =>
      have passed : Agrees seen Eq (passVerdict verdict)
          (passVerdict verdict) := by
        cases verdict with
        | reported violation => exact agrees_reportViolation unseen violation
        | silenced => exact Agrees.note unseen _ _
      exact passed.bind fun _ _ _ => ih

theorem agrees_visit (visitor : Visitor) (view : UnitView) :
    Agrees seen Eq (visit visitor view) (visit visitor view) :=
  (Agrees.enter rfl).bind fun _ _ _ =>
    (agrees_passVerdicts unseen _).bind fun _ _ _ => Agrees.pure rfl

theorem agrees_callPlugin (name : String) (view : UnitView) :
    Agrees seen Eq (callPlugin name (.activate view))
      (callPlugin name (.activate view)) := by
  refine Agrees.session.bind fun left right alike => ?_
  rw [alike.registry]
  cases right.registry.find? name with
  | none => exact Agrees.pure rfl
  | some plugin =>
      obtain ⟨leftCrashed, leftError, leftPlugin, leftDevices, -⟩ :=
        plugin.answer_activate view left.sinks
      obtain ⟨rightCrashed, rightError, rightPlugin, rightDevices, -⟩ :=
        plugin.answer_activate view right.sinks
      rw [alike.devices] at leftCrashed leftError leftPlugin leftDevices
      refine (Agrees.enter rfl).bind fun _ _ _ => ?_
      refine Agrees.bind (Agrees.modify ?_) fun _ _ _ => ?_
      · intro leftInner rightInner inner
        refine ⟨inner.apiVersion, ?_, inner.console, inner.consoleOutlet,
          leftDevices.trans rightDevices.symm, inner.files⟩
        simp only [inner.registry, leftPlugin, rightPlugin]
      refine Agrees.bind (Agrees.note unseen _ _) fun _ _ _ => ?_
      simp only [leftCrashed, rightCrashed, leftError, rightError]
      split_ifs
      · exact Agrees.crash
      · exact Agrees.pure rfl

theorem agrees_callUntilFailure (names : List String) (view : UnitView) :
    Agrees seen Eq (callUntilFailure (.activate view) names)
      (callUntilFailure (.activate view) names) := by
  induction names with
  | nil => exact Agrees.pure rfl
  | cons name others ih =>
      refine (agrees_callPlugin unseen name view).bind ?_
      rintro error? _ rfl
      cases error? with
      | none => exact ih
      | some error => exact Agrees.pure rfl

theorem agrees_activateAll (view : UnitView) :
    Agrees seen Eq (activateAll view) (activateAll view) := by
  refine Agrees.session.bind fun left right alike => ?_
  rw [alike.registry]
  refine (agrees_callUntilFailure unseen _ view).bind ?_
  rintro failure? _ rfl
  cases failure? <;> exact Agrees.pure rfl

variable {left right : RunSetup} (visitor : left.visitor = right.visitor)

include visitor

theorem agrees_dispatch (content : Content) :
    Agrees seen Eq (dispatch left content content.suppressions)
      (dispatch right content content.suppressions) := by
  refine (Agrees.note unseen _ _).bind fun _ _ _ => ?_
  rw [visitor]
  refine (agrees_visit unseen right.visitor content.view).bind ?_
  rintro error? _ rfl
  cases error? with
  | some error => exact Agrees.pure rfl
  | none =>
      refine (agrees_activateAll unseen content.view).bind ?_
      rintro result _ rfl
      cases result <;> exact Agrees.pure rfl

/-- The totals with which contents are drained, and above all the failures that
they mention, do not decide how the drain goes on. -/
theorem agrees_drain (contents : List Content) {report other : RunReport}
    (same : report.Agrees other) :
    Agrees seen RunReport.EndAlike (drain left contents report)
      (drain right contents other) := by
  induction contents generalizing report other with
  | nil => exact Agrees.pure same
  | cons content rest ih =>
      rw [drain, drain]
      refine (Agrees.note unseen _ _).bind fun _ _ _ => ?_
      refine (Agrees.note unseen _ _).bind fun _ _ _ => ?_
      split_ifs
      · refine (Agrees.note unseen _ _).bind fun _ _ _ => ?_
        refine (Agrees.enter rfl).bind fun _ _ _ => ih ?_
        exact ⟨same.staged, same.dispatched, congrArg (· + 1) same.skipped,
          congrArg (· + 1) same.released, same.failures⟩
      · refine (agrees_dispatch unseen visitor content).bind ?_
        rintro source? _ rfl
        cases source? with
        | some source =>
            refine (Agrees.enter rfl).bind fun _ _ _ => ?_
            refine (Agrees.note unseen _ _).bind fun _ _ _ => ?_
            exact Agrees.pure rfl
        | none =>
            refine (Agrees.enter rfl).bind fun _ _ _ => ih ?_
            exact ⟨same.staged, congrArg (· + 1) same.dispatched, same.skipped,
              congrArg (· + 1) same.released, same.failures⟩

end

/-- As many failures are reported in the same way, whatever they are. -/
theorem agrees_reportFailures
    (unseen : ∀ record, seen (.noted record) = false)
    (unseenFailed : ∀ unit error, seen (.failed unit error) = false)
    {failures others : List StageFailure}
    (length : failures.length = others.length) :
    Agrees seen Eq (reportFailures failures) (reportFailures others) := by
  induction failures generalizing others with
  | nil =>
      obtain rfl := List.eq_nil_of_length_eq_zero length.symm
      exact Agrees.pure rfl
  | cons failure failures ih =>
      cases others with
      | nil => cases length
      | cons other others =>
          refine (Agrees.note unseen _ _).bind fun _ _ _ => ?_
          have reported : Agrees seen Eq
              (reportFailure failure.unit failure.error.message)
              (reportFailure other.unit other.error.message) := by
            refine (Agrees.enter ?_).bind fun _ _ _ => ?_
            · simp [unseenFailed]
            · exact agrees_callConsole unseen
                (Console.uniform_reportFailure _ _)
                (Console.uniform_reportFailure _ _)
                  (Console.interchangeable_reportFailure _ _ _ _)
          exact reported.bind fun _ _ _ => ih (Nat.succ.inj length)

/-- What a run does after its failures have been reported. -/
def finish (setup : RunSetup) (intake : Intake) : Work RunResult := do
  let report ← drain setup intake.stager.takeAll.1
    ⟨intake.stager.count, 0, 0, 0, intake.failures⟩
  match report with
  | .error error => return ⟨intake.stager.count, .error error⟩
  | .ok report =>
      note [⟨.debug, runTarget,
        s!"Run complete: {report.staged} staged, {report.dispatched} dispatched, " ++
          s!"{report.skipped} skipped, {report.failures.length} failed"⟩]
      return ⟨intake.stager.count, .ok report⟩

theorem runTaken_eq_finish {setup : RunSetup}
    (bounded : setup.maxParallel ≤ maxPermits) (units : List String)
    (intake : Intake) :
    runTaken setup units intake = (do
      note [⟨.debug, runTarget,
        s!"Staging {units.length} unit(s), max {setup.maxParallel} in parallel"⟩]
      enter intake.journal
      reportFailures intake.failures
      finish setup intake) := by
  unfold runTaken
  rw [if_neg (not_lt.mpr bounded)]
  rfl

section

variable (left right : RunSetup) {leftIntake rightIntake : Intake}
  (visitor : left.visitor = right.visitor)
  (stagers : leftIntake.stager = rightIntake.stager)
  (failures : leftIntake.failures.Perm rightIntake.failures)

include visitor stagers failures

theorem agrees_finish (unseen : ∀ record, seen (.noted record) = false) :
    Agrees seen RunResult.Agrees (finish left leftIntake)
      (finish right rightIntake) := by
  have totals : RunReport.Agrees
      ⟨rightIntake.stager.count, 0, 0, 0, leftIntake.failures⟩
      ⟨rightIntake.stager.count, 0, 0, 0, rightIntake.failures⟩ :=
    ⟨rfl, rfl, rfl, rfl, failures⟩
  unfold finish
  rw [stagers]
  refine (agrees_drain unseen visitor _ totals).bind ?_
  intro leftEnd rightEnd same
  cases leftEnd with
  | error leftError =>
      cases rightEnd with
      | error rightError => exact Agrees.pure ⟨rfl, same⟩
      | ok => exact same.elim
  | ok leftReport =>
      cases rightEnd with
      | error => exact same.elim
      | ok rightReport =>
          refine (Agrees.note unseen _ _).bind fun _ _ _ => ?_
          exact Agrees.pure ⟨rfl, same⟩

theorem agrees_runTaken (unseen : ∀ record, seen (.noted record) = false)
    (unseenFailed : ∀ unit error, seen (.failed unit error) = false)
    (journals : leftIntake.journal.filter seen =
      rightIntake.journal.filter seen)
    (leftBounded : left.maxParallel ≤ maxPermits)
    (rightBounded : right.maxParallel ≤ maxPermits)
    (leftUnits rightUnits : List String) :
    Agrees seen RunResult.Agrees (runTaken left leftUnits leftIntake)
      (runTaken right rightUnits rightIntake) := by
  rw [runTaken_eq_finish leftBounded, runTaken_eq_finish rightBounded]
  refine (Agrees.note unseen _ _).bind fun _ _ _ => ?_
  refine (Agrees.enter journals).bind fun _ _ _ => ?_
  refine (agrees_reportFailures unseen unseenFailed failures.length_eq).bind
    fun _ _ _ => ?_
  exact agrees_finish left right visitor stagers failures unseen

end

private theorem failures_callConsole (session : Session)
    (call : Console → Sink → ConsoleCall) :
    (callConsole call session).journal.filter Entry.isFailure = [] := by
  have last : ∀ (crashed : Bool) (after : Session),
      ((if crashed then crash else Work.pure () : Work Unit) after).journal =
        [] := by
    intro crashed after
    cases crashed <;> rfl
  let result := call session.console (session.sinks.get session.consoleOutlet)
  have journal : (callConsole call session).journal =
      result.records.map .noted ++ [] :=
    congrArg (result.records.map Entry.noted ++ ·) (last result.crashed _)
  rw [journal, List.append_nil]
  apply filter_internal Entry.isFailure_of_isInternal
  intro entry member
  obtain ⟨record, -, rfl⟩ := List.mem_map.mp member
  rfl

/-- Every failure is reported, in order. -/
theorem failures_reportFailures {session : Session} (reports : session.Reports)
    (failures : List StageFailure) :
    (reportFailures failures session).journal.filter Entry.isFailure =
      failures.map fun failure =>
        .failed failure.unit failure.error.message := by
  induction failures generalizing session with
  | nil => rfl
  | cons failure failures ih =>
      have reported :=
        gives_reportFailure reports failure.unit failure.error.message
      have rest := ih (reported.steady.reports reports)
      have first : (reportFailure failure.unit failure.error.message
          session).journal.filter Entry.isFailure =
            [.failed failure.unit failure.error.message] :=
        congrArg (Entry.failed failure.unit failure.error.message :: ·)
          (failures_callConsole session _)
      have both : (reportFailures (failure :: failures) session).journal.filter
          Entry.isFailure =
            ((reportFailure failure.unit failure.error.message >>=
              fun _ => reportFailures failures) session).journal.filter
                Entry.isFailure := rfl
      rw [both, bind_of_value reported.ending, List.filter_append, first, rest]
      rfl

/-- The failures that a run reports are those that it has taken in, before any
that the rest of it reports. -/
theorem failures_runTaken (setup : RunSetup) {session : Session}
    (bounded : setup.maxParallel ≤ maxPermits) (reports : session.Reports)
    (units : List String) {intake : Intake}
    (quiet : ∀ entry ∈ intake.journal, entry.isInternal = true) :
    (runTaken setup units intake session).journal.filter Entry.isFailure =
      (intake.failures.map fun failure =>
        .failed failure.unit failure.error.message) ++
      (finish setup intake
        (reportFailures intake.failures session).session).journal.filter
          Entry.isFailure := by
  have reported := gives_reportFailures reports intake.failures
  have silent : intake.journal.filter Entry.isFailure = [] :=
    filter_internal Entry.isFailure_of_isInternal quiet
  have unfolded : (runTaken setup units intake session).journal.filter
      Entry.isFailure =
        (intake.journal ++ ((reportFailures intake.failures >>=
          fun _ => finish setup intake) session).journal).filter
            Entry.isFailure := by
    rw [runTaken_eq_finish bounded]
    rfl
  rw [unfolded, bind_of_value reported.ending, List.filter_append, silent,
    List.filter_append, failures_reportFailures reports]
  rfl

/-- The failure reports of the runs are the same up to their order. -/
theorem failures_runTaken_perm
    (left right : RunSetup) (visitor : left.visitor = right.visitor)
    (leftBounded : left.maxParallel ≤ maxPermits)
    (rightBounded : right.maxParallel ≤ maxPermits)
    {leftIntake rightIntake : Intake}
    (stagers : leftIntake.stager = rightIntake.stager)
    (failures : leftIntake.failures.Perm rightIntake.failures)
    (leftQuiet : ∀ entry ∈ leftIntake.journal, entry.isInternal = true)
    (rightQuiet : ∀ entry ∈ rightIntake.journal, entry.isInternal = true)
    {session : Session} (reports : session.Reports)
    (leftUnits rightUnits : List String) :
    ((runTaken left leftUnits leftIntake session).journal.filter
      Entry.isFailure).Perm
        ((runTaken right rightUnits rightIntake session).journal.filter
          Entry.isFailure) := by
  have reported : Agrees Entry.isConsumer Eq
      (reportFailures leftIntake.failures)
      (reportFailures rightIntake.failures) :=
    agrees_reportFailures (fun _ => rfl) (fun _ _ => rfl) failures.length_eq
  have alike := (reported session session (.refl session)).session
  have finished : Agrees Entry.isFailure RunResult.Agrees
      (finish left leftIntake) (finish right rightIntake) :=
    agrees_finish left right visitor stagers failures fun _ => rfl
  rw [failures_runTaken left leftBounded reports leftUnits leftQuiet,
    failures_runTaken right rightBounded reports rightUnits rightQuiet,
    (finished _ _ alike).journal]
  exact (failures.map _).append_right _

/-- Two runs over the same units, however these are named in the inputs and in
whatever order they are staged, differ in the order of failures and of log
records at most. -/
theorem schedules_agree {load : Loader} (names : load.Names)
    (visitor : Visitor) {leftInputs rightInputs : List String}
    (units : (unitsOf leftInputs).Perm (unitsOf rightInputs))
    {leftLimit rightLimit : Nat} (leftBounded : leftLimit ≤ maxPermits)
    (rightBounded : rightLimit ≤ maxPermits) {leftIntake rightIntake : Intake}
    (leftCompletes : Pool.Completes load leftLimit
      (unitsOf leftInputs) leftIntake)
    (rightCompletes : Pool.Completes load rightLimit
      (unitsOf rightInputs) rightIntake)
    (session : Session) :
    let left :=
      runTaken ⟨load, visitor, leftLimit⟩
        (unitsOf leftInputs) leftIntake session
    let right :=
      runTaken ⟨load, visitor, rightLimit⟩
        (unitsOf rightInputs) rightIntake session
    leftIntake.stager.count = rightIntake.stager.count ∧
      leftIntake.failures.Perm rightIntake.failures ∧
      leftIntake.stager.takeAll.1 = rightIntake.stager.takeAll.1 ∧
      left.Agrees Entry.isConsumer RunResult.Agrees right ∧
      (session.Reports → (left.journal.filter Entry.isFailure).Perm
        (right.journal.filter Entry.isFailure)) := by
  intro left right
  have leftAccounts := leftCompletes.accounts names
  have rightAccounts := rightCompletes.accounts names
  obtain ⟨stagers, failures⟩ := leftAccounts.unique rightAccounts units
  have silentLeft :=
    filter_internal Entry.isConsumer_of_isInternal leftAccounts.quiet
  have silentRight :=
    filter_internal Entry.isConsumer_of_isInternal rightAccounts.quiet
  have ran :=
    agrees_runTaken ⟨load, visitor, leftLimit⟩
      ⟨load, visitor, rightLimit⟩ rfl stagers failures (fun _ => rfl)
      (fun _ _ => rfl) (silentLeft.trans silentRight.symm) leftBounded
        rightBounded (unitsOf leftInputs) (unitsOf rightInputs)
  refine ⟨congrArg Stager.count stagers, failures,
    congrArg (fun stager => (Stager.takeAll stager).1) stagers,
    ran session session (.refl session), ?_⟩
  intro reports
  exact failures_runTaken_perm ⟨load, visitor, leftLimit⟩
    ⟨load, visitor, rightLimit⟩ rfl leftBounded rightBounded stagers failures
    leftAccounts.quiet rightAccounts.quiet reports (unitsOf leftInputs)
      (unitsOf rightInputs)

theorem schedules_agree_regrouped :
    ∃ left right,
      RunsTo ⟨.queriesExcept "c", fun _ => ⟨[], none⟩, 1⟩
        ["b|a", "c"] .dumping left ∧
      RunsTo ⟨.queriesExcept "c", fun _ => ⟨[], none⟩, 3⟩
          ["c|a", "b"] .dumping right ∧
      left.Agrees Entry.isConsumer RunResult.Agrees right ∧
      (left.journal.filter Entry.isFailure).Perm
        (right.journal.filter Entry.isFailure) := by
  have leftCompletes := Pool.completes_ofUnits (show 0 < 1 by decide)
    (.queriesExcept "c") (unitsOf ["b|a", "c"])
  have rightCompletes := Pool.completes_ofUnits (show 0 < 3 by decide)
    (.queriesExcept "c") (unitsOf ["c|a", "b"])
  obtain ⟨-, -, -, agrees, failures⟩ :=
    schedules_agree (Loader.queriesExcept_names "c") (fun _ => ⟨[], none⟩)
      (show (unitsOf ["b|a", "c"]).Perm (unitsOf ["c|a", "b"]) by decide)
      (by decide) (by decide) leftCompletes rightCompletes .dumping
  exact ⟨_, _, ⟨_, leftCompletes, rfl⟩, ⟨_, rightCompletes, rfl⟩, agrees,
    failures Session.dumping_reports⟩

end Work

end QueryLint
