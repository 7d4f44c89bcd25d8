import QueryLint.Proofs.Command.CreateConfig
import QueryLint.Proofs.Files.Contents
import QueryLint.Proofs.Plugin.Preparation
import QueryLint.Proofs.Rule.Settings
import QueryLint.Proofs.Run.Permits

/-!
# The exit code of linting

Linting ends with zero if the plugins are known, the rules and their severities
as well, and every unit can be loaded; otherwise it ends with one.  What is
found in the units, and whether cleaning up fails, does not matter, and neither
does the order in which units are staged.
-/

namespace QueryLint

/-- Each run stages its units side by side, in some order of steps. -/
def Runner.Stages (run : Runner) : Prop :=
  ∀ (setup : RunSetup) (inputs : List String) (session : Session),
    0 < setup.maxParallel →
    Work.RunsTo setup inputs session (run setup inputs session)

namespace Work

theorem stages_runInputs : Runner.Stages runInputs :=
  fun _ inputs session positive => runsTo_runInputs positive inputs session

variable {session : Session}

theorem ending_bind {α β : Type} {first : Work α} {value : α}
    (ending : (first session).ending = .value value) (next : α → Work β) :
    ((first >>= next) session).ending =
      (next value (first session).session).ending := by
  rw [bind_of_value ending]

theorem Registers.ending_bind {α β : Type} {first : Work α} {value : α}
    {registry : Registry} (registers : Registers first session value registry)
    (next : α → Work β) :
    ((first >>= next) session).ending =
      (next value { session with registry := registry }).ending := by
  rw [Work.ending_bind registers.ending, registers.session]

/-- A run over units that no consumer rejects is clean if all units can be
loaded. -/
theorem RunsTo.exists_report {setup : RunSetup} {inputs : List String}
    {done : Done RunResult} (runs : RunsTo setup inputs session done)
    (names : setup.load.Names) (bounded : setup.maxParallel ≤ maxPermits)
    (reports : session.Reports) (wellFormed : session.registry.WellFormed)
    (accepts : ∀ view, session.Accepts setup.visitor view) :
    ∃ count report, done.ending = .value ⟨count, .ok report⟩ ∧
      session.Steady done.session ∧
      (report.isClean = true ↔
        ∀ unit ∈ unitsOf inputs, ∃ content, setup.load unit = .ok content) := by
  obtain ⟨intake, completes, rfl⟩ := runs
  have accounts := completes.accounts names
  have given :=
    gives_runTaken_of_accepted bounded reports wellFormed
      (unitsOf inputs) accounts.quiet fun content _ _ => accepts content.view
  refine ⟨_, _, given.ending, given.steady, ?_⟩
  have failures : intake.failures = [] ↔
      ∀ unit ∈ unitsOf inputs, ∃ content, setup.load unit = .ok content := by
    rw [← Loader.filterMap_failure?_eq_nil_iff]
    constructor
    · intro empty
      exact List.nil_perm.mp (empty ▸ accounts.failures)
    · intro empty
      exact List.perm_nil.mp (empty ▸ accounts.failures)
  rw [RunReport.isClean, List.isEmpty_iff]
  exact failures

theorem ending_conclude (reports : session.Reports)
    (surroundings : Surroundings) (count : Nat) (report : RunReport) :
    (conclude surroundings ⟨count, .ok report⟩ session).ending =
      .value report.isClean := by
  unfold conclude
  dsimp only
  split_ifs
  · have summary := Console.uniform_reportSummary
      (elapsedSeconds surroundings.before surroundings.after) count
    rw [reportSummary, ending_bind (gives_callConsole summary reports).ending]
    rfl
  · rfl

/-- A limit that is permitted leaves a setup that can be run. -/
private theorem limited_of_permitted (setup : RunSetup)
    (positive : 0 < setup.maxParallel) {limit? : Option Nat}
    (permitted : limit?.getD setup.maxParallel ≤ maxPermits) :
    let limited := limit?.elim setup setup.withMaxParallel
    limited.load = setup.load ∧ limited.visitor = setup.visitor ∧
      0 < limited.maxParallel ∧ limited.maxParallel ≤ maxPermits := by
  cases limit? with
  | none => exact ⟨rfl, rfl, positive, permitted⟩
  | some limit =>
      refine ⟨rfl, rfl, ?_, withMaxParallel_le_maxPermits_iff.mpr permitted⟩
      exact Nat.lt_of_lt_of_le Nat.one_pos (Nat.le_max_right limit 1)

variable {run : Runner} {options : Options} {surroundings : Surroundings}

theorem exists_ending_lint (stages : run.Stages)
    (processors : 0 < surroundings.processors)
    (permitted : options.maxParallel.getD surroundings.processors ≤ maxPermits)
    (lists : session.registry.Lists Plugin.builtins)
    (reports : session.Reports)
    (prints : (session.sinks.device .standard).lineResult = .done) :
    ∃ success, (lint run options surroundings session).ending = .value success ∧
      (success = true ↔ (∀ entry ∈ options.rules, RuleSet.IsOverride entry) ∧
        ∀ unit ∈ unitsOf options.inputs, ∃ content,
          session.files.load unit = .ok content) := by
  unfold lint
  cases made : RuleSet.ofOverrides options.rules with
  | error error =>
      have wrong : ¬ ∀ entry ∈ options.rules, RuleSet.IsOverride entry := by
        rw [← RuleSet.exists_ofOverrides_iff, made]
        exact nofun
      refine ⟨false, ?_, iff_of_false nofun fun right => wrong right.1⟩
      rw [(registers_note _ session).ending_bind]
      dsimp only
      rw [diagnose, (registers_note _ _).ending_bind,
        ending_bind (leaves_report reports _).ending]
      rfl
  | ok rules =>
      have right : ∀ entry ∈ options.rules, RuleSet.IsOverride entry :=
        (RuleSet.exists_ofOverrides_iff _).mp ⟨rules, made⟩
      obtain ⟨registry, prepared, wellFormed, answers⟩ :=
        exists_registers_prepareBuiltins lists prints
      let ready : Session := { session with registry := registry }
      obtain ⟨load, visitor, positive, bounded⟩ := limited_of_permitted
        ⟨ready.files.load, rules.visitor, surroundings.processors⟩ processors
        permitted
      obtain ⟨count, report, ending, steady, clean⟩ :=
        (stages _ options.inputs ready positive).exists_report
          (load ▸ ready.files.load_names) bounded reports wellFormed
          fun view => ⟨by rw [visitor]; rfl, answers view⟩
      refine ⟨report.isClean, ?_, ?_⟩
      · rw [(registers_note _ session).ending_bind]
        dsimp only
        rw [prepared.ending_bind]
        have concluded := ending_bind ending (conclude surroundings)
        rw [ending_conclude (steady.reports reports)] at concluded
        exact concluded
      · rw [clean, load]
        exact (and_iff_right right).symm

/-- Whether cleaning up fails does not matter. -/
theorem ending_lintAndCleanUp {success : Bool}
    (linted : (lint run options surroundings session).ending = .value success) :
    (lintAndCleanUp run options surroundings session).ending =
      .value success := by
  unfold lintAndCleanUp
  rw [ending_bind linted]
  obtain ⟨result, cleaned⟩ :=
    returns_cleanup (lint run options surroundings session).session
  rw [ending_bind cleaned]
  cases result <;> rfl

end Work

/-- A session that begins: no plugin is registered, and standard output, to
which the console reports, takes what is written. -/
structure Session.Begins (session : Session) : Prop where
  registry : session.registry = .empty
  version : session.apiVersion = QueryLint.apiVersion
  outlet : session.consoleOutlet = .standard
  prints : (session.sinks.device .standard).lineResult = .done

theorem Session.Begins.reports {session : Session} (begins : session.Begins) :
    session.Reports := by
  refine Or.inr fun crashing => ?_
  have prints := begins.prints
  rw [← begins.outlet, crashing] at prints
  cases prints

namespace Options

/-- The options ask for linting, and for nothing that comes before it. -/
structure AsksToLint (options : Options) : Prop where
  inputs : options.inputs ≠ []
  version : options.version = false
  printConfig : options.printConfig = false
  createConfig : options.createConfig = false
  listPlugins : options.listPlugins = false

theorem AsksToLint.request {options : Options} (asks : options.AsksToLint) :
    options.request = .lint := by
  simp [Options.request, asks.inputs, asks.version, asks.printConfig,
    asks.createConfig, asks.listPlugins]

/-- The plugins and the rules that the options name are known, the severities as
well, and every unit of the inputs can be loaded. -/
structure Lintable (options : Options) (files : FileTree) : Prop where
  plugins : options.KnowsPlugins
  rules : ∀ entry ∈ options.rules, RuleSet.IsOverride entry
  loads : ∀ unit ∈ unitsOf options.inputs, ∃ content,
    files.load unit = .ok content

theorem lintable_iff_of_same {options : Options}
    {rules : List (String × String)}
    (sameRules : List.Forall₂ RuleSet.SameButSeverity options.rules rules)
    {files other : FileTree} (sameShape : files.SameShape other) :
    Lintable { options with rules := rules } other ↔
      options.Lintable files := by
  have severities := RuleSet.forall_isOverride_iff_of_same sameRules
  constructor
  · intro lintable
    refine ⟨lintable.plugins, severities.mp lintable.rules,
      fun unit known => ?_⟩
    exact (sameShape.loads_iff unit).mp (lintable.loads unit known)
  · intro lintable
    refine ⟨lintable.plugins, severities.mpr lintable.rules,
      fun unit known => ?_⟩
    exact (sameShape.loads_iff unit).mpr (lintable.loads unit known)

end Options

namespace Work

variable {session : Session} {run : Runner} {options : Options}
  {surroundings : Surroundings}

theorem registers_handle (asked : options.request = .lint)
    (path? : Option String) (build : BuildInfo) (isTerminal : Bool) :
    Registers (handle options path? build isTerminal) session
      ⟨true, true⟩ session.registry := by
  unfold handle
  rw [asked]
  exact ⟨rfl, rfl⟩

theorem exists_ending_executeBy (asks : options.AsksToLint)
    (stages : run.Stages) (processors : 0 < surroundings.processors)
    (permitted : options.maxParallel.getD surroundings.processors ≤ maxPermits)
    (begins : session.Begins) (path? : Option String) :
    ∃ code, (executeBy run options path? surroundings session).ending =
      .value code ∧
      (options.Lintable session.files ∧ code = 0 ∨
        ¬ options.Lintable session.files ∧ code = 1) := by
  obtain ⟨total, registry, result, active, discovers, activates, knows⟩ :=
    exists_registers_plugins options begins.registry begins.version
  let ready : Session := { session with registry := ⟨registry.plugins, active⟩ }
  have readyReports : ready.Reports := begins.reports
  unfold executeBy
  rw [discovers.ending_bind]
  dsimp only
  rw [activates.ending_bind]
  cases result with
  | error error =>
      refine ⟨1, ?_, Or.inr ⟨fun lintable => ?_, rfl⟩⟩
      · dsimp only
        rw [diagnose, (registers_note _ _).ending_bind,
          ending_bind (leaves_report readyReports _).ending]
        rfl
      · cases knows.mp lintable.plugins
  | ok =>
      have discovered : registry.Lists Plugin.builtins := by
        have kept := keeps_discover options.exclusions session
          (begins.registry ▸ Registry.Lists.empty _)
        rwa [discovers.session] at kept
      have lists : ready.registry.Lists Plugin.builtins := by
        have kept :=
          keeps_activateNames options.plugins
            { session with registry := registry } discovered
        rwa [activates.session] at kept
      obtain ⟨success, linted, right⟩ :=
        exists_ending_lint stages processors permitted lists readyReports
          begins.prints
      have handles :=
        @registers_handle ready options asks.request path? surroundings.build
          surroundings.isTerminal
      refine ⟨if success then 0 else 1, ?_, ?_⟩
      · dsimp only
        rw [handles.ending_bind, if_pos rfl,
          ending_bind (ending_lintAndCleanUp linted)]
        rfl
      · have lintable : options.Lintable session.files ↔ success = true :=
          ⟨fun lintable => right.mpr ⟨lintable.rules, lintable.loads⟩,
            fun succeeded =>
              ⟨knows.mpr rfl, (right.mp succeeded).1, (right.mp succeeded).2⟩⟩
        rw [lintable]
        cases success <;> simp

end Work

/-- Linting ends with zero if the plugins, the rules and the severities are
known and every unit can be loaded, and with one otherwise.  So it ends the same
if files hold something else or other severities are named. -/
theorem Options.exitCode_of_lint {options : Options} (asks : options.AsksToLint)
    {run : Runner} (stages : run.Stages) {surroundings : Surroundings}
    (processors : 0 < surroundings.processors)
    (permitted : options.maxParallel.getD surroundings.processors ≤ maxPermits)
    {session : Session} (begins : session.Begins) (path? : Option String) :
    let done := Work.executeBy run options path? surroundings session
    (options.Lintable session.files → done.ending = .value 0) ∧
    (¬ options.Lintable session.files → done.ending = .value 1) ∧
    ∀ (other : Session) (otherRun : Runner) (rules : List (String × String)),
      other.Begins → otherRun.Stages → session.files.SameShape other.files →
      List.Forall₂ RuleSet.SameButSeverity options.rules rules →
      let changed := { options with rules := rules }
      (Work.executeBy otherRun changed path? surroundings other).ending =
        done.ending := by
  intro done
  obtain ⟨code, ending, outcome⟩ :=
    Work.exists_ending_executeBy asks stages processors permitted begins path?
  have exits : done.ending = .value code := ending
  refine ⟨fun lintable => ?_, fun unlintable => ?_, ?_⟩
  · rcases outcome with ⟨-, rfl⟩ | ⟨unlintable, -⟩
    · exact exits
    · exact absurd lintable unlintable
  · rcases outcome with ⟨lintable, -⟩ | ⟨-, rfl⟩
    · exact absurd lintable unlintable
    · exact exits
  · intro other otherRun rules otherBegins otherStages sameShape sameRules
      changed
    have asksAgain : changed.AsksToLint :=
      ⟨asks.inputs, asks.version, asks.printConfig, asks.createConfig,
        asks.listPlugins⟩
    obtain ⟨otherCode, otherEnding, otherOutcome⟩ :=
      Work.exists_ending_executeBy asksAgain otherStages processors permitted
        otherBegins path?
    rw [lintable_iff_of_same sameRules sameShape] at otherOutcome
    have sameCode : otherCode = code := by
      rcases outcome with ⟨lintable, rfl⟩ | ⟨unlintable, rfl⟩
      · exact (otherOutcome.resolve_right fun fails => fails.1 lintable).2
      · exact (otherOutcome.resolve_left fun succeeds =>
          unlintable succeeds.1).2
    rw [otherEnding, sameCode, exits]

/-- Neither a violation nor a plugin that cannot be cleaned up makes a
difference. -/
theorem Options.exitCode_of_lint_changed_file :
    let surroundings : Surroundings :=
      ⟨⟨"", ""⟩, 1, false, false, 0, 0, ⟨"", ""⟩⟩
    let ending (severity text : String) : Ending Nat :=
      let options : Options :=
        { Options.unset with
          inputs := ["a.sql"], plugins := ["dump"],
          rules := [("select-star", severity)] }
      let files : FileTree :=
        ⟨[(["a.sql"], .file text.toUTF8.toList)], [], none⟩
      (Work.executeBy Work.runInputs options none surroundings
        (opening (.unflushable "closed") files)).ending
    ending "Error" "SELECT *" = .value 0 ∧
      ending " off" "SELECT 1;" = .value 0 := by
  intro surroundings ending
  let options : Options :=
    { Options.unset with
      inputs := ["a.sql"], plugins := ["dump"],
      rules := [("select-star", "Error")] }
  let files (text : String) : FileTree :=
    ⟨[(["a.sql"], .file text.toUTF8.toList)], [], none⟩
  have begins (text : String) :
      (opening (.unflushable "closed") (files text)).Begins :=
    ⟨rfl, rfl, rfl, rfl⟩
  have isName : FileTree.IsName "a.sql" := by decide +kernel
  have holds : (files "SELECT *").Holds "a.sql"
      ["a.sql"] "SELECT *".toUTF8.toList :=
    isName.holds rfl rfl
  have error : Severity.IsNamedBy "Error" := ⟨.error, by decide +kernel⟩
  have off : Severity.IsNamedBy " off" := ⟨.off, by decide +kernel⟩
  have lintable : options.Lintable (files "SELECT *") := by
    constructor
    · intro name member
      obtain rfl := List.mem_singleton.mp member
      exact ⟨by decide, List.not_mem_nil⟩
    · intro entry member
      obtain rfl := List.mem_singleton.mp member
      exact ⟨⟨.selectStar, rfl⟩, error⟩
    · intro unit known
      have units : unitsOf options.inputs = ["a.sql"] := by decide +kernel
      rw [units] at known
      obtain rfl := List.mem_singleton.mp known
      exact ⟨_, by rw [FileTree.load, holds.find]⟩
  have asks : options.AsksToLint := ⟨List.cons_ne_nil _ _, rfl, rfl, rfl, rfl⟩
  have processors : 0 < surroundings.processors := by decide
  have permitted : options.maxParallel.getD surroundings.processors ≤
      maxPermits := by decide
  obtain ⟨succeeds, -, same⟩ :=
    exitCode_of_lint asks Work.stages_runInputs processors permitted
      (begins "SELECT *") none
  have sameShape : (files "SELECT *").SameShape (files "SELECT 1;") :=
    FileTree.sameShape_put (List.cons_ne_nil _ _) rfl _
  have sameRules : List.Forall₂ RuleSet.SameButSeverity options.rules
      [("select-star", " off")] :=
    .cons ⟨rfl, Or.inr ⟨error, off⟩⟩ .nil
  have first := succeeds lintable
  refine ⟨first, ?_⟩
  exact (same _ _ _ (begins "SELECT 1;") Work.stages_runInputs sameShape
    sameRules).trans first

end QueryLint
