import QueryLint.Proofs.Rule.Findings
import QueryLint.Proofs.Run.Drain
import QueryLint.Proofs.Suppression.Coverage

/-!
# Units that are skipped

A unit that a directive covers from its first line to its last reaches no
consumer.  Had it been visited all the same, nothing would have been reported of
a rule that the directive is about.
-/

namespace QueryLint

/-- The violation that the entry reports, if it does. -/
def Entry.report? : Entry → Option Violation
  | reported violation => some violation
  | _ => none

namespace Work

variable {α β : Type}

/-- The violations that the work reports in the session, in order. -/
def reports (work : Work α) (session : Session) : List Violation :=
  (work session).journal.filterMap Entry.report?

theorem reports_bind (first : Work α) (next : α → Work β) (session : Session) :
    reports (first >>= next) session =
      reports first session ++
        match (first session).ending with
        | .value value => reports (next value) (first session).session
        | .crash => [] := by
  change ((Work.bind first next session).journal).filterMap Entry.report? = _
  unfold Work.bind reports
  cases done : first session with
  | mk ending after journal => cases ending <;> simp

theorem reports_bind_of_nil {first : Work α} {next : α → Work β}
    (earlier : ∀ session, reports first session = [])
    (later : ∀ value session, reports (next value) session = [])
    (session : Session) :
    reports (first >>= next) session = [] := by
  rw [reports_bind, earlier, List.nil_append]
  cases (first session).ending with
  | value value => exact later value _
  | crash => rfl

theorem reports_note (records : List Log.Record) (session : Session) :
    reports (note records) session = [] := by
  change (records.map Entry.noted).filterMap Entry.report? = []
  simp [List.filterMap_map, Function.comp_def, Entry.report?]

theorem reports_callConsole (call : Console → Sink → ConsoleCall)
    (session : Session) :
    reports (callConsole call) session = [] := by
  refine reports_bind_of_nil (fun _ => rfl) (fun _ => ?_) session
  refine reports_bind_of_nil (fun _ => rfl) fun _ => ?_
  refine reports_bind_of_nil (reports_note _) fun _ after => ?_
  split
  · rfl
  · rfl

private theorem reports_passVerdict (verdict : Verdict) (session : Session) :
    reports (passVerdict verdict) session = Verdict.violations [verdict] := by
  cases verdict with
  | silenced => exact reports_note _ session
  | reported violation =>
      rw [passVerdict, reportViolation, reports_bind]
      exact congrArg (violation :: ·) (reports_callConsole _ session)

/-- Verdicts are passed on in order, for as long as the console does not
crash. -/
theorem reports_passVerdicts (verdicts : List Verdict) (session : Session) :
    reports (passVerdicts verdicts) session <+:
      Verdict.violations verdicts := by
  induction verdicts generalizing session with
  | nil => exact List.nil_prefix
  | cons verdict others ih =>
      have split : Verdict.violations (verdict :: others) =
          Verdict.violations [verdict] ++ Verdict.violations others :=
        List.filterMap_append (l := [verdict])
      rw [passVerdicts, reports_bind, reports_passVerdict, split,
        List.prefix_append_right_inj]
      cases (passVerdict verdict session).ending with
      | value _ => exact ih _
      | crash => exact List.nil_prefix

theorem reports_visit (visitor : Visitor) (view : UnitView)
    (session : Session) :
    reports (visit visitor view) session <+:
      Verdict.violations (visitor view).verdicts := by
  have last : reports (passVerdicts (visitor view).verdicts >>= fun _ =>
      pure (visitor view).error?) session =
        reports (passVerdicts (visitor view).verdicts) session := by
    rw [reports_bind]
    cases (passVerdicts (visitor view).verdicts session).ending with
    | value _ => exact List.append_nil _
    | crash => exact List.append_nil _
  have whole := reports_passVerdicts (visitor view).verdicts session
  rw [← last] at whole
  rw [visit, reports_bind]
  exact whole

/-- Visits to two units come to the same in the session, with the same
reports. -/
structure SameVisit (visitor : Visitor) (view other : UnitView)
    (session : Session) :
    Prop where
  ending : (visit visitor view session).ending =
    (visit visitor other session).ending
  after : (visit visitor view session).session =
    (visit visitor other session).session
  reports : reports (visit visitor view) session =
    reports (visit visitor other) session

/-- Nothing but what the visitor says of a unit decides what a visit comes
to. -/
theorem sameVisit_of_eq {visitor : Visitor} {view other : UnitView}
    (same : visitor view = visitor other) (session : Session) :
    SameVisit visitor view other session := by
  have unfolded : ∀ looked, visit visitor looked =
      (enter [.visited looked] >>= fun _ =>
        passVerdicts (visitor looked).verdicts >>= fun _ =>
          pure (visitor looked).error?) :=
    fun _ => rfl
  constructor
  · rw [unfolded view, unfolded other, same]
    rfl
  · rw [unfolded view, unfolded other, same]
    rfl
  · rw [unfolded view, unfolded other, same,
      reports_bind (enter [.visited view]),
      reports_bind (enter [.visited other])]
    rfl

/-- The visitor of a rule set sees nothing of a unit but its name, its
directives and its lines. -/
theorem sameVisit_of_evaluate
    {rules : RuleSet} {view other : UnitView}
    (same : rules.evaluate view.unit view.suppressions (textLines view.bytes) =
      rules.evaluate other.unit other.suppressions (textLines other.bytes))
    (session : Session) : SameVisit rules.visitor view other session := by
  apply sameVisit_of_eq
  rw [RuleSet.visitor, RuleSet.visitor, same]

private theorem passVerdicts_of_violations_nil
    {verdicts : List Verdict} (none : Verdict.violations verdicts = [])
    (session : Session) :
    (passVerdicts verdicts session).ending = .value () ∧
      (passVerdicts verdicts session).session = session := by
  induction verdicts with
  | nil => exact ⟨rfl, rfl⟩
  | cons verdict others ih =>
      cases verdict with
      | reported violation => cases none
      | silenced unit rule line => exact ih none

/-- A visit without a violation leaves the session as it is. -/
theorem visit_of_violations_nil {visitor : Visitor} {view : UnitView}
    (none : Verdict.violations (visitor view).verdicts = [])
    (session : Session) :
    (visit visitor view session).ending = .value (visitor view).error? ∧
      (visit visitor view session).session = session ∧
      reports (visit visitor view) session = [] := by
  obtain ⟨ending, same⟩ := passVerdicts_of_violations_nil none session
  have shown := reports_visit visitor view session
  have done :=
    bind_of_value ending fun _ => (pure (visitor view).error? : Work _)
  rw [none] at shown
  refine ⟨?_, ?_, List.prefix_nil.mp shown⟩
  · exact congrArg Done.ending done
  · exact (congrArg Done.session done).trans same

/-- A unit with a range over all of its lines is skipped, and nothing is lost by
it: a visit would report no violation of a rule that the range is about.  If it
is about every rule, a visit would report nothing at all and leave no change. -/
theorem visit_of_covered {content : Content} {selector : Selector}
    {range : LineRange}
    (scanned : .range selector range ∈ content.suppressions.directives)
    (first : range.first = 1) (last : range.last = content.lineCount)
    (rules : RuleSet) :
    content.isSkipped = true ∧
    ∀ session : Session,
      (∀ violation ∈ reports (visit rules.visitor content.view) session,
        selector.covers violation.rule = false) ∧
      (selector = .every →
        (visit rules.visitor content.view session).ending = .value none ∧
        (visit rules.visitor content.view session).session = session ∧
        reports (visit rules.visitor content.view) session = []) := by
  have uncovered : ∀ violation ∈
      Verdict.violations (rules.visitor content.view).verdicts,
      selector.covers violation.rule = false := by
    intro violation member
    obtain ⟨rule, finding, found, passed, rfl⟩ :=
      RuleSet.exists_finding_of_mem_violations member
    obtain ⟨atLeast, atMost⟩ := Rule.line_of_mem_check found
    rw [length_codeOnly] at atMost
    have inRange : range.holds finding.line = true := by
      have counted : finding.line ≤ content.lineCount :=
        content.length_lines ▸ atMost
      simp only [LineRange.holds, Bool.and_eq_true, decide_eq_true_eq]
      omega
    have kept := List.any_eq_false.mp passed _ scanned
    change selector.covers rule.name = false
    simpa [Directive.silences, Directive.holds, Directive.selector,
      inRange] using kept
  refine ⟨Suppressions.coverAll_iff.mpr
    ⟨selector, range, scanned, first, last⟩, ?_⟩
  intro session
  refine ⟨fun violation member =>
    uncovered violation ((reports_visit _ _ session).subset member), ?_⟩
  rintro rfl
  have none : Verdict.violations (rules.visitor content.view).verdicts =
      [] := by
    apply List.eq_nil_iff_forall_not_mem.mpr
    intro violation member
    cases uncovered violation member
  exact visit_of_violations_nil none session

theorem visit_of_covered_query :
    let content := Content.ofQuery "/* sqllint-disable select-star */ SELECT *"
    let range : LineRange := ⟨1, 1, by decide, by decide⟩
    .range (.named "select-star".toList) range ∈
      content.suppressions.directives ∧
    range.last = content.lineCount ∧ content.isSkipped = true ∧
    ∀ session, ∀ violation ∈
      reports (visit RuleSet.default.visitor content.view) session,
      Text.sameIgnoringCase "select-star".toList violation.rule.toList =
        false := by
  intro content range
  have scanned : .range (.named "select-star".toList) range ∈
      content.suppressions.directives := by
    decide +kernel
  have last : range.last = content.lineCount := by decide +kernel
  obtain ⟨skipped, visited⟩ := visit_of_covered scanned rfl last RuleSet.default
  exact ⟨scanned, last, skipped, fun session => (visited session).1⟩

end Work

end QueryLint
