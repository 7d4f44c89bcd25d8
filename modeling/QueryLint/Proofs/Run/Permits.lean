import QueryLint.Config.Settings
import QueryLint.Proofs.Run.Accounting
import QueryLint.Proofs.Text.Counts

/-!
# Limits on the units that are loaded at a time

The command line and the configuration file accept every positive limit that
they can write.  A run comes to an end with those up to `maxPermits`; with a
higher one it crashes before it takes in a unit, whatever its inputs are.
-/

namespace QueryLint

theorem Options.parallelSetting_eq_some_iff {table : Toml.Table} {limit : Nat} :
    parallelSetting table = .ok (some limit) ↔
      0 < limit ∧ Ordered.find? "max-parallel" table =
        some (.integer limit) := by
  unfold parallelSetting
  cases Ordered.find? "max-parallel" table with
  | none => simp
  | some value =>
      cases value with
      | integer number =>
          simp only [Toml.Value.asInteger?, Option.some.injEq,
            Toml.Value.integer.injEq]
          split_ifs with positive
          · simp only [Except.ok.injEq, Option.some.injEq]
            omega
          · simp only [false_iff, not_and]
            omega
      | _ => simp [Toml.Value.asInteger?]

namespace Work

variable {session : Session} {setup : RunSetup}

theorem runTaken_of_exceeds (exceeds : maxPermits < setup.maxParallel)
    (units : List String) (intake : Intake) :
    (runTaken setup units intake session).ending = .crash ∧
      (runTaken setup units intake session).session = session ∧
      (runTaken setup units intake session).journal.filterMap Entry.delivery? =
        [] := by
  have stops : runTaken setup units intake session =
      ⟨.crash, session, [.noted ⟨.debug, runTarget,
        s!"Staging {units.length} unit(s), max {setup.maxParallel} in parallel"⟩]⟩ := by
    unfold runTaken
    rw [if_pos exceeds]
    rfl
  rw [stops]
  exact ⟨rfl, rfl, rfl⟩

theorem RunsTo.exists_value {inputs : List String} {done : Done RunResult}
    (run : RunsTo setup inputs session done) (names : setup.load.Names)
    (bounded : setup.maxParallel ≤ maxPermits) (reports : session.Reports)
    (wellFormed : session.registry.WellFormed)
    (returns : ∀ unit ∈ unitsOf inputs, ∀ content,
      setup.load unit = .ok content →
      content.isSkipped = false → ∀ name ∈ session.registry.active,
        ∃ error?, session.Answers name content.view error?) :
    ∃ result, done.ending = .value result := by
  obtain ⟨intake, completes, rfl⟩ := run
  have accounts := completes.accounts names
  have distinct := accounts.distinct names
  have returnsTaken : ∀ content ∈ intake.stager.takeAll.1,
      content.isSkipped = false →
      ∀ name ∈ session.registry.active,
        ∃ error?, session.Answers name content.view error? := by
    intro content member dispatched
    obtain ⟨known, loaded⟩ := (distinct.mem_iff content).mp member
    exact returns content.unit known content loaded dispatched
  rcases accepted_or_first_rejected returnsTaken with
    accepted | ⟨below, failing, above,
    reached, error, split, accepted, dispatched, rejects⟩
  · exact ⟨_,
      (gives_runTaken_of_accepted bounded reports wellFormed (unitsOf inputs)
      accounts.quiet accepted).ending⟩
  · exact ⟨_,
      (gives_runTaken_of_rejects bounded reports wellFormed (unitsOf inputs)
      accounts.quiet split accepted dispatched rejects).ending⟩

theorem withMaxParallel_le_maxPermits_iff {limit : Nat} :
    (setup.withMaxParallel limit).maxParallel ≤ maxPermits ↔
      limit ≤ maxPermits := by
  rw [RunSetup.withMaxParallel, Nat.max_le]
  exact and_iff_left (by decide)

/-- Texts and tables give every limit above zero, yet only up to `maxPermits` a
run comes to an end: above, it crashes and reaches no consumer. -/
theorem ends_or_crashes_at_limit (names : setup.load.Names)
    (reports : session.Reports) (wellFormed : session.registry.WellFormed)
    {inputs : List String}
    (returns : ∀ unit ∈ unitsOf inputs, ∀ content,
      setup.load unit = .ok content →
      content.isSkipped = false → ∀ name ∈ session.registry.active,
        ∃ error?, session.Answers name content.view error?) :
    (∀ limit, (∃ text, positiveCount text = .ok limit) ↔
      0 < limit ∧ limit < UInt64.size) ∧
    (∀ table limit, Options.parallelSetting table = .ok (some limit) ↔
      0 < limit ∧ Ordered.find? "max-parallel" table = some (.integer limit)) ∧
    ∀ limit,
      RunsTo (setup.withMaxParallel limit) inputs session
        (runInputs (setup.withMaxParallel limit) inputs session) ∧
      ∀ done, RunsTo (setup.withMaxParallel limit) inputs session done →
        (limit ≤ maxPermits → ∃ result, done.ending = .value result) ∧
        (maxPermits < limit → done.ending = .crash ∧ done.session = session ∧
          done.journal.filterMap Entry.delivery? = []) := by
  refine ⟨fun limit => exists_positiveCount_iff,
    fun table limit => Options.parallelSetting_eq_some_iff, ?_⟩
  intro limit
  have positive : 0 < (setup.withMaxParallel limit).maxParallel :=
    lt_of_lt_of_le Nat.one_pos (Nat.le_max_right limit 1)
  refine ⟨runsTo_runInputs positive inputs session, ?_⟩
  intro done run
  constructor
  · intro within
    exact run.exists_value names
      (withMaxParallel_le_maxPermits_iff.mpr within) reports wellFormed returns
  · intro exceeds
    obtain ⟨intake, -, rfl⟩ := run
    apply runTaken_of_exceeds
    rwa [← not_le, withMaxParallel_le_maxPermits_iff, not_le]

/-- Of two limits that are accepted next to each other, the lower one is the
last with which a run ends. -/
theorem ends_or_crashes_at_limit_permits :
    let setup : RunSetup := ⟨.queriesExcept "c", fun _ => ⟨[], none⟩, 2⟩
    (∃ text, positiveCount text = .ok 2305843009213693952) ∧
    (∃ done, RunsTo (setup.withMaxParallel 2305843009213693951)
      ["b|a"] .dumping done ∧
      ∃ result, done.ending = .value result) ∧
    ∃ done, RunsTo (setup.withMaxParallel 2305843009213693952)
        ["b|a"] .dumping done ∧
      done.ending = .crash := by
  intro setup
  obtain ⟨texts, -, runs⟩ := @ends_or_crashes_at_limit .dumping setup
    (Loader.queriesExcept_names "c") Session.dumping_reports
    Session.dumping_wellFormed ["b|a"] fun _ _ _ _ _ _ active =>
      ⟨none, Session.dumping_answers active _⟩
  obtain ⟨lower, ends⟩ := runs 2305843009213693951
  obtain ⟨upper, crashes⟩ := runs 2305843009213693952
  exact ⟨(texts _).mpr (by decide), ⟨_, lower, (ends _ lower).1 (by decide)⟩,
    ⟨_, upper, ((crashes _ upper).2 (by decide)).1⟩⟩

/-- A limit that both checks accept crashes a run over one query. -/
theorem accepted_limit_crashes :
    let setup : RunSetup := ⟨.queriesExcept "c", fun _ => ⟨[], none⟩, 2⟩
    let limit := 2305843009213693952
    positiveCount "2305843009213693952" = .ok limit ∧
      Options.parallelSetting [("max-parallel", .integer 2305843009213693952)] =
        .ok (some limit) ∧
      (runInputs (setup.withMaxParallel limit) ["SELECT 1;"] .dumping).ending =
        .crash := by
  intro setup limit
  have exceeds : maxPermits < (setup.withMaxParallel limit).maxParallel := by
    decide
  exact ⟨by decide +kernel, rfl, (runTaken_of_exceeds exceeds _ _).1⟩

end Work

end QueryLint
