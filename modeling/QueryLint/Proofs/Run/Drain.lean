import QueryLint.Proofs.Plugin.Activation
import QueryLint.Run.Basic

/-!
# Draining contents

`Session.Accepts` and `Session.Rejects` say what the visitor and the active
plugins make of a unit.  Contents are drained in order up to the first that is
rejected; those that directives suppress as a whole reach no consumer, and all
are given up.
-/

namespace QueryLint

namespace Content

/-- What consumers see of the content. -/
def view (content : Content) : UnitView :=
  ⟨content.unit, content.suppressions, content.bytes⟩

/-- The directives in the content suppress all of it. -/
def isSkipped (content : Content) : Bool :=
  content.whollySuppressed content.suppressions

end Content

/-- The unit reaches the visitor and after it the plugins of the names. -/
def Delivery.toAll (names : List String) (view : UnitView) : List Delivery :=
  .visitor view :: names.map (.plugin · view)

/-- The deliveries of contents that all consumers take. -/
def Delivery.ofContents (names : List String) (contents : List Content) :
    List Delivery :=
  (contents.filter fun content => !content.isSkipped).flatMap fun content =>
    toAll names content.view

/-- The totals after draining contents that all consumers take. -/
def RunReport.past (report : RunReport) (contents : List Content) : RunReport :=
  { report with
    dispatched :=
      report.dispatched + contents.countP fun content => !content.isSkipped
    skipped := report.skipped + contents.countP Content.isSkipped
    released := report.released + contents.length }

theorem RunReport.past_cons (report : RunReport) (content : Content)
    (contents : List Content) :
    report.past (content :: contents) =
      (report.past [content]).past contents := by
  simp only [past, List.countP_cons, List.countP_nil, List.length_cons,
    List.length_nil]
  congr 1 <;> omega

theorem Delivery.ofContents_cons_skipped {content : Content}
    (skipped : content.isSkipped = true) (names : List String)
    (contents : List Content) :
    ofContents names (content :: contents) = ofContents names contents := by
  simp [ofContents, skipped]

theorem Delivery.ofContents_cons {content : Content}
    (dispatched : content.isSkipped = false) (names : List String)
    (contents : List Content) :
    ofContents names (content :: contents) =
      toAll names content.view ++ ofContents names contents := by
  simp [ofContents, dispatched]

namespace Session

/-- The visitor and all active plugins take the unit. -/
structure Accepts (session : Session) (visitor : Visitor) (view : UnitView) :
    Prop where
  visitor : (visitor view).error? = none
  plugins : ∀ name ∈ session.registry.active, session.Answers name view none

/-- The visitor fails on the unit, or it takes the unit and an active plugin is
the first to fail.  The names are those of the plugins that the unit reaches. -/
inductive Rejects (session : Session) (visitor : Visitor) (view : UnitView) :
    List String → DispatchError → Prop where
  | rules {error : RuleError} :
      (visitor view).error? = some error →
      Rejects session visitor view [] (.rules error)
  | plugins {before others : List String} {name : String}
      {error : PluginError} :
      (visitor view).error? = none →
      session.registry.active = before ++ name :: others →
      (∀ earlier ∈ before, session.Answers earlier view none) →
      session.Answers name view (some error) →
      Rejects session visitor view (before ++ [name]) (.plugins error)

variable {before after : Session} {visitor : Visitor} {view : UnitView}

theorem Steady.accepts (steady : before.Steady after)
    (accepts : before.Accepts visitor view) : after.Accepts visitor view := by
  refine ⟨accepts.visitor, ?_⟩
  rw [steady.active]
  exact fun name member => steady.answers (accepts.plugins name member)

theorem Steady.rejects (steady : before.Steady after)
    {reached : List String} {error : DispatchError}
    (rejects : before.Rejects visitor view reached error) :
    after.Rejects visitor view reached error := by
  cases rejects with
  | rules fails => exact .rules fails
  | plugins takes active earlier fails =>
      exact .plugins takes (steady.active.trans active)
        (fun name member => steady.answers (earlier name member))
        (steady.answers fails)

private theorem answers_none_or_first_error
    {session : Session} {names : List String}
    (returns : ∀ name ∈ names, ∃ error?, session.Answers name view error?) :
    (∀ name ∈ names, session.Answers name view none) ∨
      ∃ before name others error, names = before ++ name :: others ∧
        (∀ earlier ∈ before, session.Answers earlier view none) ∧
        session.Answers name view (some error) := by
  induction names with
  | nil => exact Or.inl (List.forall_mem_nil _)
  | cons name rest ih =>
      obtain ⟨returnsFirst, returnsRest⟩ := List.forall_mem_cons.mp returns
      obtain ⟨error?, answers⟩ := returnsFirst
      cases error? with
      | some error =>
          exact Or.inr ⟨[], name, rest, error, rfl, List.forall_mem_nil _,
            answers⟩
      | none =>
          rcases ih returnsRest with
            all | ⟨before, failing, others, error, split,
            earlier, fails⟩
          · exact Or.inl (List.forall_mem_cons.mpr ⟨answers, all⟩)
          · exact Or.inr ⟨name :: before, failing, others, error,
              congrArg (name :: ·) split,
              List.forall_mem_cons.mpr ⟨answers, earlier⟩, fails⟩

/-- If all active plugins return, the unit is either accepted or rejected. -/
theorem accepts_or_rejects (session : Session) (visitor : Visitor)
    {view : UnitView}
    (returns : ∀ name ∈ session.registry.active,
      ∃ error?, session.Answers name view error?) :
    session.Accepts visitor view ∨
      ∃ reached error, session.Rejects visitor view reached error := by
  cases visited : (visitor view).error? with
  | some error => exact Or.inr ⟨[], _, .rules visited⟩
  | none =>
      rcases answers_none_or_first_error returns with
        all | ⟨before, name, others,
        error, split, earlier, fails⟩
      · exact Or.inl ⟨visited, all⟩
      · exact Or.inr ⟨_, _, .plugins visited split earlier fails⟩

theorem Accepts.not_rejects (accepts : before.Accepts visitor view)
    {reached : List String} {error : DispatchError} :
    ¬ before.Rejects visitor view reached error := by
  intro rejects
  cases rejects with
  | rules fails => exact absurd (accepts.visitor.symm.trans fails) (by simp)
  | plugins takes active earlier fails =>
      have member : _ ∈ before.registry.active :=
        active ▸ List.mem_append_right _ List.mem_cons_self
      obtain ⟨plugin, found, -, none⟩ := accepts.plugins _ member
      obtain ⟨other, otherFound, -, some⟩ := fails
      rw [found] at otherFound
      cases otherFound
      exact absurd (none.symm.trans some) (by simp)

end Session

namespace Work

variable {session : Session} {setup : RunSetup}

theorem gives_passVerdicts (reports : session.Reports)
    (verdicts : List Verdict) :
    Gives (passVerdicts verdicts) session () [] [] := by
  induction verdicts generalizing session with
  | nil => exact Gives.pure session ()
  | cons verdict others ih =>
      have passed : Gives (passVerdict verdict) session () [] [] := by
        cases verdict with
        | reported violation => exact gives_reportViolation reports violation
        | silenced => exact Gives.note session _
      exact passed.bindQuiet fun after steady => ih (steady.reports reports)

theorem gives_visit (reports : session.Reports) (visitor : Visitor)
    (view : UnitView) :
    Gives (visit visitor view) session (visitor view).error? [.visitor view]
      [] := by
  refine Gives.bind (Gives.enter session [.visited view]) ?_
  intro after steady
  refine (gives_passVerdicts (steady.reports reports) _).bindQuiet ?_
  exact fun later _ => Gives.pure later _

theorem gives_dispatch (reports : session.Reports)
    (wellFormed : session.registry.WellFormed) {content : Content}
    (accepts : session.Accepts setup.visitor content.view) :
    Gives (dispatch setup content content.suppressions) session none
      (Delivery.toAll session.registry.active content.view) [] := by
  refine Gives.bindQuiet (Gives.note session _) ?_
  intro noted steady
  have visited :=
    gives_visit (steady.reports reports) setup.visitor content.view
  rw [accepts.visitor] at visited
  refine Gives.bind visited ?_
  intro after later
  have whole := steady.trans later
  have shown := gives_activateAll (whole.wellFormed wellFormed)
    (whole.accepts accepts).plugins
  rw [whole.active] at shown
  exact shown.bindDone fun last _ => Gives.pure last none

theorem gives_dispatch_of_rejects (reports : session.Reports)
    (wellFormed : session.registry.WellFormed) {content : Content}
    {reached : List String} {error : DispatchError}
    (rejects : session.Rejects setup.visitor content.view reached error) :
    Gives (dispatch setup content content.suppressions) session (some error)
      (Delivery.toAll reached content.view) [] := by
  refine Gives.bindQuiet (Gives.note session _) ?_
  intro noted steady
  have visited :=
    gives_visit (steady.reports reports) setup.visitor content.view
  cases rejects with
  | rules fails =>
      rw [fails] at visited
      exact visited.bindDone fun last _ => Gives.pure last _
  | plugins takes active earlier fails =>
      rw [takes] at visited
      refine Gives.bind visited ?_
      intro after later
      have whole := steady.trans later
      have shown := gives_activateAll_of_failure (whole.wellFormed wellFormed)
        (whole.active.trans active)
        (fun name member => whole.answers (earlier name member))
        (whole.answers fails)
      exact shown.bindDone fun last _ => Gives.pure last _

theorem gives_drain_skipped
    {content : Content} {rest : List Content} {report : RunReport}
    (skipped : content.isSkipped = true)
    {result : Except RunError RunReport}
    {deliveries : List Delivery} {releases : List Content}
    (later : ∀ after, session.Steady after →
      Gives (drain setup rest (report.past [content])) after result
        deliveries releases) :
    Gives (drain setup (content :: rest) report) session result deliveries
      (content :: releases) := by
  have suppressed : content.whollySuppressed content.suppressions = true :=
    skipped
  have advanced : report.past [content] =
      { report with
        skipped := report.skipped + 1, released := report.released + 1 } := by
    simp [RunReport.past, skipped]
  rw [advanced] at later
  rw [drain]
  refine Gives.bindQuiet (Gives.note session _) fun scanned scannedSteady => ?_
  refine Gives.bindQuiet (Gives.note scanned _) fun covered coveredSteady => ?_
  rw [if_pos suppressed]
  refine Gives.bindQuiet (Gives.note covered _) fun noted notedSteady => ?_
  refine Gives.bind (Gives.enter noted [.released content])
    fun released releasedSteady => ?_
  exact later released
    (((scannedSteady.trans coveredSteady).trans notedSteady).trans
      releasedSteady)

theorem gives_drain_accepted
    (reports : session.Reports) (wellFormed : session.registry.WellFormed)
    {content : Content} {rest : List Content} {report : RunReport}
    (dispatched : content.isSkipped = false)
    (accepts : session.Accepts setup.visitor content.view)
    {result : Except RunError RunReport}
    {deliveries : List Delivery} {releases : List Content}
    (later : ∀ after, session.Steady after →
      Gives (drain setup rest (report.past [content])) after result
        deliveries releases) :
    Gives (drain setup (content :: rest) report) session result
      (Delivery.toAll session.registry.active content.view ++ deliveries)
      (content :: releases) := by
  have unsuppressed : ¬ content.whollySuppressed content.suppressions =
      true := by
    simpa [Content.isSkipped] using dispatched
  have advanced : report.past [content] =
      { report with
        dispatched := report.dispatched + 1
        released := report.released + 1 } := by
    simp [RunReport.past, dispatched]
  rw [advanced] at later
  rw [drain]
  refine Gives.bindQuiet (Gives.note session _) fun scanned scannedSteady => ?_
  refine Gives.bindQuiet (Gives.note scanned _) fun covered coveredSteady => ?_
  rw [if_neg unsuppressed]
  have steady := scannedSteady.trans coveredSteady
  have shown :=
    gives_dispatch (steady.reports reports) (steady.wellFormed wellFormed)
      (steady.accepts accepts)
  rw [steady.active] at shown
  refine Gives.bind shown fun taken takenSteady => ?_
  refine Gives.bind (Gives.enter taken [.released content])
    fun released releasedSteady => ?_
  exact later released ((steady.trans takenSteady).trans releasedSteady)

/-- The first content that is rejected ends the drain; it and all that follow
are given up. -/
theorem gives_drain_rejected
    (reports : session.Reports) (wellFormed : session.registry.WellFormed)
    {content : Content} {rest : List Content} {report : RunReport}
    (dispatched : content.isSkipped = false)
    {reached : List String} {error : DispatchError}
    (rejects : session.Rejects setup.visitor content.view reached error) :
    Gives (drain setup (content :: rest) report) session
      (.error (.dispatch content.unit error))
      (Delivery.toAll reached content.view) (content :: rest) := by
  have unsuppressed : ¬ content.whollySuppressed content.suppressions =
      true := by
    simpa [Content.isSkipped] using dispatched
  rw [drain]
  refine Gives.bindQuiet (Gives.note session _) fun scanned scannedSteady => ?_
  refine Gives.bindQuiet (Gives.note scanned _) fun covered coveredSteady => ?_
  rw [if_neg unsuppressed]
  have steady := scannedSteady.trans coveredSteady
  have shown := gives_dispatch_of_rejects (steady.reports reports)
    (steady.wellFormed wellFormed) (steady.rejects rejects)
  refine Gives.bindRelease shown fun failed _ => ?_
  refine Gives.bindDone (Gives.release failed (content :: rest))
    fun released _ => ?_
  refine Gives.bindQuiet (Gives.note released _) fun last _ => ?_
  exact Gives.pure last (Except.error (RunError.dispatch content.unit error))

/-- Contents that are skipped or accepted are drained, and the rest follows. -/
theorem gives_drain_append
    (reports : session.Reports) (wellFormed : session.registry.WellFormed)
    {contents rest : List Content} {report : RunReport}
    (accepted : ∀ content ∈ contents, content.isSkipped = false →
      session.Accepts setup.visitor content.view)
    {result : Except RunError RunReport}
    {deliveries : List Delivery} {releases : List Content}
    (later : ∀ after, session.Steady after →
      Gives (drain setup rest (report.past contents)) after result
        deliveries releases) :
    Gives (drain setup (contents ++ rest) report) session result
      (Delivery.ofContents session.registry.active contents ++ deliveries)
      (contents ++ releases) := by
  induction contents generalizing session report with
  | nil => exact later session (.refl session)
  | cons content contents ih =>
      obtain ⟨acceptedFirst, acceptedRest⟩ := List.forall_mem_cons.mp accepted
      have following : ∀ after, session.Steady after →
          Gives (drain setup (contents ++ rest) (report.past [content])) after
            result (Delivery.ofContents session.registry.active contents ++
              deliveries) (contents ++ releases) := by
        intro after steady
        rw [← steady.active]
        apply ih (steady.reports reports) (steady.wellFormed wellFormed)
        · exact fun other member dispatched =>
            steady.accepts (acceptedRest other member dispatched)
        · intro last lastSteady
          rw [← RunReport.past_cons]
          exact later last (steady.trans lastSteady)
      cases skipped : content.isSkipped with
      | true =>
          rw [Delivery.ofContents_cons_skipped skipped]
          exact gives_drain_skipped skipped following
      | false =>
          rw [Delivery.ofContents_cons skipped, List.append_assoc]
          exact gives_drain_accepted reports wellFormed skipped
            (acceptedFirst skipped) following

theorem gives_drain
    (reports : session.Reports) (wellFormed : session.registry.WellFormed)
    {contents : List Content} (report : RunReport)
    (accepted : ∀ content ∈ contents, content.isSkipped = false →
      session.Accepts setup.visitor content.view) :
    Gives (drain setup contents report) session (.ok (report.past contents))
      (Delivery.ofContents session.registry.active contents) contents := by
  have all : Gives (drain setup (contents ++ []) report) session
      (.ok (report.past contents))
      (Delivery.ofContents session.registry.active contents ++ [])
        (contents ++ []) :=
    gives_drain_append reports wellFormed accepted fun after _ =>
      Gives.pure after _
  rwa [List.append_nil, List.append_nil] at all

theorem gives_drain_of_rejects
    (reports : session.Reports) (wellFormed : session.registry.WellFormed)
    {below above : List Content} {failing : Content} (report : RunReport)
    (accepted : ∀ content ∈ below, content.isSkipped = false →
      session.Accepts setup.visitor content.view)
    (dispatched : failing.isSkipped = false)
    {reached : List String} {error : DispatchError}
    (rejects : session.Rejects setup.visitor failing.view reached error) :
    Gives (drain setup (below ++ failing :: above) report) session
      (.error (.dispatch failing.unit error))
      (Delivery.ofContents session.registry.active below ++
        Delivery.toAll reached failing.view)
      (below ++ failing :: above) :=
  gives_drain_append reports wellFormed accepted fun _ steady =>
    gives_drain_rejected (steady.reports reports) (steady.wellFormed wellFormed)
      dispatched (steady.rejects rejects)

end Work

end QueryLint
