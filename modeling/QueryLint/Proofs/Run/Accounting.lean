import QueryLint.Proofs.Run.Drain
import QueryLint.Proofs.Staging.Pool

/-!
# What a run accounts for

The units of a run are staged side by side, so a run can end in several ways.
In all of them every unit is accounted for, every content is given up once, and
consumers are shown the contents in ascending order of their units, up to the
first that one of them rejects.
-/

namespace QueryLint

namespace Work

variable {session : Session} {setup : RunSetup}

/-- What a run over inputs can come to: its units are staged side by side, in
some order of steps. -/
def RunsTo (setup : RunSetup) (inputs : List String) (session : Session)
    (done : Done RunResult) : Prop :=
  ∃ intake, Pool.Completes setup.load setup.maxParallel
      (unitsOf inputs) intake ∧
    done = runTaken setup (unitsOf inputs) intake session

/-- The run that stages its units one after the other is among them. -/
theorem runsTo_runInputs (positive : 0 < setup.maxParallel)
    (inputs : List String) (session : Session) :
    RunsTo setup inputs session (runInputs setup inputs session) :=
  ⟨_, Pool.completes_ofUnits positive setup.load (unitsOf inputs), rfl⟩

theorem gives_reportFailures (reports : session.Reports)
    (failures : List StageFailure) :
    Gives (reportFailures failures) session () [] [] := by
  induction failures generalizing session with
  | nil => exact Gives.pure session ()
  | cons failure others ih =>
      refine Gives.bindQuiet (Gives.note session _) fun noted notedSteady => ?_
      refine Gives.bindQuiet
        (gives_reportFailure (notedSteady.reports reports) _ _)
        fun reported reportedSteady => ?_
      exact ih ((notedSteady.trans reportedSteady).reports reports)

/-- A run ends as its drain does, unless it takes in too much at a time. -/
theorem gives_runTaken
    (bounded : setup.maxParallel ≤ maxPermits) (reports : session.Reports)
    (units : List String) {intake : Intake}
    (quiet : ∀ entry ∈ intake.journal, entry.isInternal = true)
    {result : Except RunError RunReport}
    {deliveries : List Delivery} {releases : List Content}
    (drained : ∀ after, session.Steady after →
      Gives (drain setup intake.stager.takeAll.1
        ⟨intake.stager.count, 0, 0, 0, intake.failures⟩) after result
        deliveries releases) :
    Gives (runTaken setup units intake) session ⟨intake.stager.count, result⟩
      deliveries (intake.journal.filterMap Entry.release? ++ releases) := by
  have undelivered : intake.journal.filterMap Entry.delivery? = [] := by
    apply List.filterMap_eq_nil_iff.mpr
    exact fun entry member => Entry.delivery?_of_isInternal (quiet entry member)
  unfold runTaken
  refine Gives.bindQuiet (Gives.note session _) fun noted notedSteady => ?_
  rw [if_neg (not_lt.mpr bounded)]
  have entered := Gives.enter noted intake.journal
  rw [undelivered] at entered
  refine Gives.bind entered fun takenIn takenSteady => ?_
  have steady := notedSteady.trans takenSteady
  refine Gives.bindQuiet (gives_reportFailures (steady.reports reports) _)
    fun reported reportedSteady => ?_
  refine Gives.bindDone (drained reported (steady.trans reportedSteady))
    fun last _ => ?_
  cases result with
  | error error => exact Gives.pure last _
  | ok report =>
      refine Gives.bindQuiet (Gives.note last _) fun ended _ => ?_
      exact Gives.pure ended _

theorem gives_runTaken_of_accepted
    (bounded : setup.maxParallel ≤ maxPermits)
    (reports : session.Reports) (wellFormed : session.registry.WellFormed)
    (units : List String) {intake : Intake}
    (quiet : ∀ entry ∈ intake.journal, entry.isInternal = true)
    (accepted : ∀ content ∈ intake.stager.takeAll.1, content.isSkipped = false →
      session.Accepts setup.visitor content.view) :
    Gives (runTaken setup units intake) session
      ⟨intake.stager.count, .ok
        (RunReport.past ⟨intake.stager.count, 0, 0, 0, intake.failures⟩
          intake.stager.takeAll.1)⟩
      (Delivery.ofContents session.registry.active intake.stager.takeAll.1)
      (intake.journal.filterMap Entry.release? ++ intake.stager.takeAll.1) := by
  apply gives_runTaken bounded reports units quiet
  intro after steady
  rw [← steady.active]
  apply gives_drain (steady.reports reports) (steady.wellFormed wellFormed)
  exact fun content member dispatched =>
    steady.accepts (accepted content member dispatched)

theorem gives_runTaken_of_rejects
    (bounded : setup.maxParallel ≤ maxPermits)
    (reports : session.Reports) (wellFormed : session.registry.WellFormed)
    (units : List String) {intake : Intake}
    (quiet : ∀ entry ∈ intake.journal, entry.isInternal = true)
    {below above : List Content} {failing : Content}
    (split : intake.stager.takeAll.1 = below ++ failing :: above)
    (accepted : ∀ content ∈ below, content.isSkipped = false →
      session.Accepts setup.visitor content.view)
    (dispatched : failing.isSkipped = false)
    {reached : List String} {error : DispatchError}
    (rejects : session.Rejects setup.visitor failing.view reached error) :
    Gives (runTaken setup units intake) session
      ⟨intake.stager.count, .error (.dispatch failing.unit error)⟩
      (Delivery.ofContents session.registry.active below ++
        Delivery.toAll reached failing.view)
      (intake.journal.filterMap Entry.release? ++ intake.stager.takeAll.1) := by
  apply gives_runTaken bounded reports units quiet
  intro after steady
  rw [← steady.active, split]
  apply gives_drain_of_rejects (steady.reports reports)
    (steady.wellFormed wellFormed)
  · exact fun content member shown =>
      steady.accepts (accepted content member shown)
  · exact dispatched
  · exact steady.rejects rejects

theorem accepted_or_first_rejected
    {contents : List Content}
    (returns : ∀ content ∈ contents, content.isSkipped = false →
      ∀ name ∈ session.registry.active,
        ∃ error?, session.Answers name content.view error?)
    {visitor : Visitor} :
    (∀ content ∈ contents, content.isSkipped = false →
      session.Accepts visitor content.view) ∨
    ∃ below failing above reached error,
      contents = below ++ failing :: above ∧
      (∀ content ∈ below, content.isSkipped = false →
        session.Accepts visitor content.view) ∧
      failing.isSkipped = false ∧
      session.Rejects visitor failing.view reached error := by
  induction contents with
  | nil => exact Or.inl (List.forall_mem_nil _)
  | cons content rest ih =>
      obtain ⟨returnsFirst, returnsRest⟩ := List.forall_mem_cons.mp returns
      have first : (content.isSkipped = false →
          session.Accepts visitor content.view) ∨
          content.isSkipped = false ∧ ∃ reached error,
            session.Rejects visitor content.view reached error := by
        cases skipped : content.isSkipped with
        | true => exact Or.inl nofun
        | false =>
            rcases session.accepts_or_rejects visitor
              (returnsFirst skipped) with
              accepts | rejects
            · exact Or.inl fun _ => accepts
            · exact Or.inr ⟨rfl, rejects⟩
      rcases first with accepts | ⟨dispatched, reached, error, rejects⟩
      · rcases ih returnsRest with
          all | ⟨below, failing, above, reached, error, split,
          accepted, dispatched, rejects⟩
        · exact Or.inl (List.forall_mem_cons.mpr ⟨accepts, all⟩)
        · exact Or.inr ⟨content :: below, failing, above, reached, error,
            congrArg (content :: ·) split,
            List.forall_mem_cons.mpr ⟨accepts, accepted⟩, dispatched, rejects⟩
      · exact Or.inr ⟨[], content, rest, reached, error, rfl,
          List.forall_mem_nil _, dispatched, rejects⟩

/-- However a run ends, it gives every content up once.  It ends at the least
unit that is rejected, if there is one: every unit below has been shown to all
consumers, and no unit above to any. -/
theorem ends_at_least_rejected (names : setup.load.Names)
    (bounded : setup.maxParallel ≤ maxPermits) (reports : session.Reports)
    (wellFormed : session.registry.WellFormed) {inputs : List String}
    (returns : ∀ unit ∈ unitsOf inputs, ∀ content,
      setup.load unit = .ok content →
      content.isSkipped = false → ∀ name ∈ session.registry.active,
        ∃ error?, session.Answers name content.view error?)
    {done : Done RunResult} (run : RunsTo setup inputs session done) :
    ∃ result,
      done.ending = .value result ∧
      (done.journal.filterMap Entry.release?).Perm
        ((unitsOf inputs).filterMap setup.load.content?) ∧
      (done.journal.filterMap Entry.release?).length = result.fileCount ∧
      ((∀ unit ∈ unitsOf inputs, ∀ content, setup.load unit = .ok content →
          content.isSkipped = false →
          session.Accepts setup.visitor content.view) →
        ∃ report, result.report = .ok report) ∧
      ∀ unit ∈ unitsOf inputs, ∀ content, setup.load unit = .ok content →
        content.isSkipped = false →
        ¬ session.Accepts setup.visitor content.view →
        ∃ below failing above reached error,
          setup.load.Distinct (unitsOf inputs) (below ++ failing :: above) ∧
          result.report = .error (.dispatch failing.unit error) ∧
          failing.isSkipped = false ∧
          session.Rejects setup.visitor failing.view reached error ∧
          (∀ other ∈ below, other.isSkipped = false →
            session.Accepts setup.visitor other.view) ∧
          (content = failing ∨
            Text.utf8Bytes failing.unit < Text.utf8Bytes content.unit) ∧
          done.journal.filterMap Entry.delivery? =
            Delivery.ofContents session.registry.active below ++
              Delivery.toAll reached failing.view := by
  obtain ⟨intake, completes, rfl⟩ := run
  have accounts := completes.accounts names
  have distinct := accounts.distinct names
  have returnsTaken : ∀ content ∈ intake.stager.takeAll.1,
      content.isSkipped = false →
      ∀ name ∈ session.registry.active,
        ∃ error?, session.Answers name content.view error? := by
    intro content member dispatched
    obtain ⟨known, loaded⟩ := (distinct.mem_iff content).mp member
    exact returns content.unit known content loaded dispatched
  rcases accepted_or_first_rejected returnsTaken with
    accepted | ⟨below, failing, above, reached,
    error, split, accepted, dispatched, rejects⟩
  · have given := gives_runTaken_of_accepted bounded reports wellFormed
      (unitsOf inputs) accounts.quiet accepted
    refine ⟨_, given.ending, given.releases ▸ accounts.releases,
      given.releases ▸ accounts.length_releases, fun _ => ⟨_, rfl⟩, ?_⟩
    intro unit known content loaded shown fails
    have member := accounts.mem_takeAll names known loaded
    exact absurd (accepted content member shown) fails
  · have given := gives_runTaken_of_rejects bounded reports wellFormed
      (unitsOf inputs) accounts.quiet split accepted dispatched rejects
    refine ⟨_, given.ending, given.releases ▸ accounts.releases,
      given.releases ▸ accounts.length_releases, ?_, ?_⟩
    · intro all
      have member : failing ∈ intake.stager.takeAll.1 :=
        split ▸ List.mem_append_right _ List.mem_cons_self
      obtain ⟨known, loaded⟩ := (distinct.mem_iff failing).mp member
      exact absurd rejects
        (all failing.unit known failing loaded dispatched).not_rejects
    · intro unit known content loaded shown fails
      have member := accounts.mem_takeAll names known loaded
      rw [split] at distinct member
      have absent : content ∉ below :=
        fun inBelow => fails (accepted content inBelow shown)
      exact ⟨below, failing, above, reached, error, distinct, rfl, dispatched,
        rejects, accepted, distinct.eq_or_lt_of_not_mem member absent,
        given.deliveries⟩

theorem ends_at_least_rejected_query :
    ∃ (done : Done RunResult) (result : RunResult) (failing : Content)
        (error : DispatchError),
      RunsTo ⟨.queriesExcept "c", fun view =>
          ⟨[], if view.unit = "b" then some (.unknownRule "r") else none⟩, 2⟩
        ["c|b", "a|b"] .dumping done ∧
      done.ending = .value result ∧
      (done.journal.filterMap Entry.release?).length = result.fileCount ∧
      result.report = .error (.dispatch failing.unit error) ∧
      (Content.ofQuery "b" = failing ∨
        Text.utf8Bytes failing.unit <
          Text.utf8Bytes (Content.ofQuery "b").unit) := by
  obtain ⟨result, ending, -, released, -, least⟩ :=
    @ends_at_least_rejected .dumping ⟨.queriesExcept "c", fun view =>
      ⟨[], if view.unit = "b" then some (.unknownRule "r") else none⟩, 2⟩
    (Loader.queriesExcept_names "c") (by decide) Session.dumping_reports
    Session.dumping_wellFormed ["c|b", "a|b"]
    (fun _ _ _ _ _ _ active => ⟨none, Session.dumping_answers active _⟩) _
    (runsTo_runInputs (by decide) _ _)
  obtain ⟨below, failing, above, reached, error, -, report, -, -, -, first,
      -⟩ :=
    least "b" (by decide) (.ofQuery "b") (by rfl) (by decide)
      fun accepts => absurd accepts.visitor (by decide)
  exact ⟨_, result, failing, error, runsTo_runInputs (by decide) _ _, ending,
    released, report, first⟩

end Work

end QueryLint
