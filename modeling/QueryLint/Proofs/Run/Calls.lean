import QueryLint.Proofs.Run.Permits
import QueryLint.Proofs.Run.Repeating
import QueryLint.Proofs.Run.Schedules
import QueryLint.Run.Processor

/-!
# Calls of one processor

Calls of one processor share its counter, the plugins and the console.  Whatever
an earlier call has come to, a later one comes to the same as on a processor
that has made no run, and totals grow by what each call adds to them alone.
-/

namespace QueryLint

theorem Session.Alike.steady {left right : Session} (alike : left.Alike right) :
    left.Steady right :=
  ⟨congrArg Registry.active alike.registry.symm,
    fun _ => by rw [alike.registry], alike.consoleOutlet.symm,
    alike.devices.symm, by rw [alike.console]⟩

/-- What is observed at calls of consumers and at reported violations alone is
the same for journals that agree in them. -/
private theorem filterMap_eq_of_filter_isConsumer {γ : Type}
    {observe : Entry → Option γ}
    (unseen : ∀ entry, entry.isConsumer = false → observe entry = none)
    {left right : List Entry}
    (same : left.filter Entry.isConsumer = right.filter Entry.isConsumer) :
    left.filterMap observe = right.filterMap observe := by
  have filtered (entries : List Entry) :
      (entries.filter Entry.isConsumer).filterMap observe =
        entries.filterMap observe := by
    rw [List.filterMap_filter]
    apply List.filterMap_congr
    intro entry _
    cases seen : entry.isConsumer with
    | true => rfl
    | false => exact (unseen entry seen).symm
  rw [← filtered left, same, filtered]

namespace Work

/-- Runs over the same units agree in whatever order these are staged, also if
they take in too much at a time. -/
theorem agrees_of_completes (setup : RunSetup) (names : setup.load.Names)
    {units : List String} {intake other : Intake}
    (completes : Pool.Completes setup.load setup.maxParallel units intake)
    (otherCompletes : Pool.Completes setup.load setup.maxParallel units other)
    (session : Session) :
    (runTaken setup units intake session).Agrees Entry.isConsumer
      RunResult.Agrees
      (runTaken setup units other session) := by
  have accounts := completes.accounts names
  have otherAccounts := otherCompletes.accounts names
  obtain ⟨stagers, failures⟩ := accounts.unique otherAccounts (.refl units)
  by_cases bounded : setup.maxParallel ≤ maxPermits
  · have quiet {taken : Intake}
        (internal : ∀ entry ∈ taken.journal, entry.isInternal = true) :
        taken.journal.filter Entry.isConsumer = [] := by
      apply List.filter_eq_nil_iff.mpr
      intro entry member
      simp [Entry.isConsumer_of_isInternal entry (internal entry member)]
    have ran := agrees_runTaken setup setup rfl stagers failures (fun _ => rfl)
      (fun _ _ => rfl)
      ((quiet accounts.quiet).trans (quiet otherAccounts.quiet).symm) bounded
        bounded units units
    exact ran session session (.refl session)
  · have exceeds := not_le.mp bounded
    have same : runTaken setup units intake = runTaken setup units other := by
      unfold runTaken
      rw [if_pos exceeds, if_pos exceeds]
    obtain ⟨crashes, -⟩ :=
      @runTaken_of_exceeds session setup exceeds units other
    rw [same]
    refine ⟨?_, .refl _, rfl⟩
    rw [crashes]
    trivial

end Work

namespace Processor

/-- What a call has come to, with the processor after it. -/
structure Outcome where
  done : Done RunResult
  after : Processor

/-- The outcomes have the same result, calls of consumers, reported violations
and number of files; only failures may come in another order. -/
structure Outcome.Agrees (left right : Outcome) : Prop where
  ending : left.done.ending.Agrees RunResult.Agrees right.done.ending
  deliveries : left.done.journal.filterMap Entry.delivery? =
    right.done.journal.filterMap Entry.delivery?
  reports : left.done.journal.filterMap Entry.report? =
    right.done.journal.filterMap Entry.report?
  fileCount : left.after.fileCount = right.after.fileCount

/-- What a call can come to: its units are staged side by side, in some order of
steps. -/
def CallsTo (processor : Processor) (call : Call) (session : Session)
    (outcome : Outcome) : Prop :=
  ∃ intake,
    Relation.ReflTransGen
      (Pool.Step processor.setup.load processor.setup.maxParallel)
      ⟨call.units.map fun unit => ⟨unit, .waiting⟩, processor.intake⟩
          ⟨[], intake⟩ ∧
    outcome = ⟨Work.runTaken processor.setup call.units intake session,
      processor.after intake⟩

/-- Calls one after the other, each of the processor and in the session that the
one before it has left. -/
inductive InTurn :
    Processor → Session → List Call → List Outcome → Session → Prop where
  | none {processor : Processor} {session : Session} :
      InTurn processor session [] [] session
  | next {processor : Processor} {session last : Session} {call : Call}
      {calls : List Call} {outcome : Outcome} {outcomes : List Outcome} :
      processor.CallsTo call session outcome →
      InTurn outcome.after outcome.done.session calls outcomes last →
      InTurn processor session (call :: calls) (outcome :: outcomes) last

variable {processor : Processor} {session : Session}

/-- The call that takes its units in one after the other is among them. -/
theorem callsTo_call (positive : 0 < processor.setup.maxParallel)
    (call : Call) :
    processor.CallsTo call session
      ⟨processor.call call session, processor.after (processor.taken call)⟩ :=
  ⟨_, Pool.completes_ofUnits positive processor.setup.load call.units, rfl⟩

theorem fileCount_after_eq {other : Processor}
    (setup : other.setup = processor.setup) {intake otherIntake : Intake}
    (stagers : otherIntake.stager = intake.stager) :
    (other.after otherIntake).fileCount =
      (processor.after intake).fileCount := by
  simp only [after, setup]
  split_ifs
  · rfl
  · rw [stagers]

/-- Whatever has been linted in between, a call comes to what it came to
before. -/
theorem CallsTo.agrees (names : processor.setup.load.Names)
    {other : Processor} (setup : other.setup = processor.setup)
    (reports : session.Reports) {later : Session}
    (steady : session.Steady later) {call : Call} {earlier outcome : Outcome}
    (called : processor.CallsTo call session earlier)
    (calledLater : other.CallsTo call later outcome) :
    outcome.Agrees earlier ∧ outcome.after.setup = processor.setup ∧
      session.Steady outcome.done.session ∧
      ∀ total, ∃ amount,
        earlier.done.session.console.total total =
          session.console.total total + amount ∧
        outcome.done.session.console.total total =
          later.console.total total + amount := by
  obtain ⟨intake, completes, rfl⟩ := called
  obtain ⟨otherIntake, otherCompletes, rfl⟩ := calledLater
  rw [setup] at otherCompletes ⊢
  -- The run is first repeated in the later session, and then staged in another
  -- order.
  have repeated :=
    Work.repeats_runTaken processor.setup call.units intake session later steady
      reports
  have ran :=
    Work.agrees_of_completes processor.setup names otherCompletes completes
      later
  have unseen {γ : Type} {observe : Entry → Option γ}
      (seen : ∀ entry, entry.isConsumer = false → observe entry = none) :=
    filterMap_eq_of_filter_isConsumer seen ran.journal
  refine ⟨⟨?_, ?_, ?_, ?_⟩, setup, ?_, ?_⟩
  · rw [repeated.ending]
    exact ran.ending
  · refine (unseen ?_).trans repeated.deliveries.symm
    intro entry hidden
    cases entry <;> first | rfl | cases hidden
  · refine (unseen ?_).trans repeated.reports.symm
    intro entry hidden
    cases entry <;> first | rfl | cases hidden
  · have accounts := Pool.Completes.accounts completes names
    have otherAccounts := Pool.Completes.accounts otherCompletes names
    exact fileCount_after_eq setup (otherAccounts.unique accounts (.refl _)).1
  · exact (steady.trans repeated.keptLater).trans ran.session.steady.symm
  · intro total
    obtain ⟨amount, first, second⟩ := repeated.totals total
    refine ⟨amount, first, ?_⟩
    rw [← second, ran.session.console]

/-- Calls in a session that is steady come to what they have come to before. -/
theorem InTurn.agrees_of_steady {base : Processor}
    (names : base.setup.load.Names) {fresh : Session}
    (reports : fresh.Reports) {calls : List Call} {outcomes : List Outcome}
    {last : Session} (inTurn : InTurn processor session calls outcomes last)
    (setup : processor.setup = base.setup) (steady : fresh.Steady session)
    {alones : List Outcome}
    (alone : List.Forall₂ (fun call outcome => base.CallsTo call fresh outcome)
      calls alones) :
    List.Forall₂ Outcome.Agrees outcomes alones ∧
      ∀ total, last.console.total total = session.console.total total +
        (alones.map fun alone => alone.done.session.console.total total -
          fresh.console.total total).sum := by
  induction inTurn generalizing alones with
  | none =>
      cases alone
      exact ⟨.nil, fun _ => rfl⟩
  | next called _ ih =>
      cases alone with
      | cons calledAlone others =>
          obtain ⟨agrees, setupAfter, steadyAfter, totals⟩ :=
            calledAlone.agrees names setup reports steady called
          obtain ⟨rest, restTotals⟩ := ih setupAfter steadyAfter others
          refine ⟨.cons agrees rest, ?_⟩
          intro total
          obtain ⟨amount, added, addedLater⟩ := totals total
          rw [restTotals, addedLater, List.map_cons, List.sum_cons, added]
          omega

/-- Every call comes to what it comes to alone, on a processor that has made no
run, and the totals grow by what each call adds to them alone. -/
theorem inTurn_agrees_alone (names : processor.setup.load.Names)
    (reports : session.Reports) {calls : List Call} {outcomes : List Outcome}
    {last : Session} (inTurn : InTurn processor session calls outcomes last)
    {alones : List Outcome}
    (alone : List.Forall₂ (fun call outcome =>
      (start processor.setup).CallsTo call session outcome) calls alones) :
    List.Forall₂ Outcome.Agrees outcomes alones ∧
      ∀ total, last.console.total total = session.console.total total +
        (alones.map fun alone => alone.done.session.console.total total -
          session.console.total total).sum :=
  inTurn.agrees_of_steady names reports rfl (.refl session) alone

/-- The first call has a unit that cannot be loaded and ends in an error. -/
theorem inTurn_agrees_alone_after_error :
    let setup : RunSetup := ⟨.queriesExcept "c", fun view =>
      ⟨[.reported ⟨view.unit, 1, 1, .error, "r", "t"⟩],
        if view.unit = "b" then some (.unknownRule "r") else none⟩, 2⟩
    let calls : List Call := [.list ["c|b"], .query "d|a"]
    ∃ outcomes last alones,
      InTurn ⟨setup, 7⟩ .dumping calls outcomes last ∧
      List.Forall₂ (fun call outcome =>
        (start setup).CallsTo call .dumping outcome)
        calls alones ∧
      List.Forall₂ Outcome.Agrees outcomes alones ∧
      last.console.total .errors =
        (alones.map fun alone =>
          alone.done.session.console.total .errors).sum := by
  intro setup calls
  have positive : 0 < setup.maxParallel := by decide
  have inTurn : InTurn ⟨setup, 7⟩ .dumping calls _ _ :=
    .next (callsTo_call positive _) (.next (callsTo_call positive _) .none)
  have alone : List.Forall₂
      (fun call outcome => (start setup).CallsTo call .dumping outcome)
      calls _ :=
    .cons (callsTo_call positive _) (.cons (callsTo_call positive _) .nil)
  obtain ⟨agrees, totals⟩ :=
    inTurn_agrees_alone (Loader.queriesExcept_names "c") Session.dumping_reports
      inTurn alone
  exact ⟨_, _, _, inTurn, alone, agrees,
    (totals .errors).trans (Nat.zero_add _)⟩

end Processor

end QueryLint
