import Mathlib
import QueryLint.Proofs.Command.Logging
import QueryLint.Proofs.Config.Filling
import QueryLint.Proofs.Files.Writing
import QueryLint.Proofs.Plugin.Discovery

/-!
# Creating the configuration file

The request to create a configuration file is carried out after the file that
the command line names has been loaded, and after the plugins that it names have
been made active.  A file that is missing or cannot be loaded ends the execution
before.
-/

namespace QueryLint

namespace Options

/-- Every plugin that the options name comes with the tool and is not
excluded. -/
def KnowsPlugins (options : Options) : Prop :=
  ∀ name ∈ options.plugins,
    name ∈ Plugin.builtins.map Plugin.name ∧ name ∉ options.exclusions

end Options

namespace Work

variable {session : Session}

/-- The work ends with the value and leaves the files. -/
structure Leaves {α : Type} (work : Work α) (session : Session) (value : α)
    (files : FileTree) : Prop where
  ending : (work session).ending = .value value
  files : (work session).session.files = files

theorem Leaves.bind {α β : Type} {work : Work α} {next : α → Work β}
    {value : α} {result : β} {between files : FileTree}
    (first : Leaves work session value between)
    (rest : Leaves (next value) (work session).session result files) :
    Leaves (work >>= next) session result files := by
  have unfolded := bind_of_value first.ending next
  constructor
  · rw [unfolded, rest.ending]
  · rw [unfolded, rest.files]

theorem Leaves.ofSession {α : Type} {next : Session → Work α} {value : α}
    {files : FileTree} (rest : Leaves (next session) session value files) :
    Leaves (Work.session >>= next) session value files :=
  ⟨rest.ending, rest.files⟩

theorem leaves_note (records : List Log.Record) (session : Session) :
    Leaves (note records) session () session.files :=
  ⟨rfl, rfl⟩

theorem Registers.bindLeaves {α β : Type} {work : Work α} {next : α → Work β}
    {value : α} {result : β} {registry : Registry} {files : FileTree}
    (first : Registers work session value registry)
    (rest : Leaves (next value)
      { session with registry := registry } result files) :
    Leaves (work >>= next) session result files := by
  refine Leaves.bind ⟨first.ending, congrArg Session.files first.session⟩ ?_
  rw [first.session]
  exact rest

theorem leaves_report (reports : session.Reports) (message : String) :
    Leaves (report message) session () session.files := by
  have returned := gives_callConsole (Console.uniform_writeLine message) reports
  have last : ∀ (crashed : Bool) (after : Session),
      ((if crashed then crash else Work.pure () : Work Unit) after).session =
        after := by
    intro crashed after
    cases crashed <;> rfl
  let result :=
    session.console.report (session.sinks.get session.consoleOutlet) message
  let after : Session :=
    { session with
      console := result.console
      sinks := session.sinks.set session.consoleOutlet result.sink }
  have files : ((if result.crashed then crash else Work.pure () : Work Unit)
      after).session.files = session.files :=
    (congrArg Session.files (last result.crashed after)).trans rfl
  exact ⟨returned.ending, files⟩

theorem leaves_createConfig {options : Options} {path : String}
    (named : options.configFile = some path) (reports : session.Reports) :
    (∀ written, session.files.writeDefaultConfig path options.force =
      .ok written →
      Leaves (createConfig options) session (.done true) written) ∧
    ∀ error, session.files.writeDefaultConfig path options.force =
      .error error →
      Leaves (createConfig options) session (.done false) session.files := by
  have path? : (options.configFile <|> session.files.homeConfig?) =
      some path := by
    rw [named]
    rfl
  constructor
  · intro written writes
    unfold createConfig
    refine Leaves.ofSession ?_
    rw [path?]
    dsimp only
    rw [writes]
    dsimp only
    have modified :
        Leaves (modify fun session => { session with files := written })
          session () written :=
      ⟨rfl, rfl⟩
    refine modified.bind ?_
    refine (leaves_note _ _).bind ?_
    refine (leaves_report ?_ _).bind ?_
    · exact reports
    · exact ⟨rfl,
        (@leaves_report { session with files := written } reports _).files⟩
  · intro error fails
    unfold createConfig
    refine Leaves.ofSession ?_
    rw [path?]
    dsimp only
    rw [fails]
    dsimp only
    refine (leaves_note _ _).bind ?_
    refine (leaves_report reports _).bind ?_
    exact ⟨rfl, (leaves_report reports _).files⟩

theorem leaves_handle {options : Options} {response : Response}
    {files : FileTree} (asked : options.request = .createConfig)
    (creates : Leaves (createConfig options) session response files)
    (path? : Option String) (build : BuildInfo) (isTerminal : Bool) :
    Leaves (handle options path? build isTerminal) session response files := by
  unfold handle
  rw [asked]
  exact (leaves_note _ session).bind creates

/-- An execution begins with plugins that are registered and made active; that
succeeds if all plugins are known. -/
theorem exists_registers_plugins (options : Options)
    (fresh : session.registry = .empty)
    (version : session.apiVersion = apiVersion) :
    ∃ total registry result active,
      Registers (discover options.exclusions) session (.ok total) registry ∧
      Registers (activateNames options.plugins)
        { session with registry := registry } result
        ⟨registry.plugins, active⟩ ∧
      (options.KnowsPlugins ↔ result = .ok ()) := by
  obtain ⟨total, registry, discovers, names⟩ :=
    exists_registers_discover options.exclusions fresh version
  obtain ⟨result, active, activates, all⟩ :=
    exists_registers_activateNames options.plugins
      { session with registry := registry }
  refine ⟨total, registry, result, active, discovers, activates, ?_⟩
  simp only [all, names, Options.KnowsPlugins]

/-- The exit code is zero if the plugins are known and the file is written. -/
theorem exists_leaves_execute {options : Options} {path : String}
    {path? : Option String} {surroundings : Surroundings}
    (asked : options.request = .createConfig)
    (named : options.configFile = some path) (reports : session.Reports)
    (fresh : session.registry = .empty)
    (version : session.apiVersion = apiVersion) :
    ∃ code files,
      Leaves (execute options path? surroundings) session code files ∧
      (code = 0 ∧ options.KnowsPlugins ∧
          session.files.writeDefaultConfig path options.force = .ok files ∨
        code = 1 ∧ files = session.files ∧ (options.KnowsPlugins →
          ∃ error, session.files.writeDefaultConfig path options.force =
            .error error)) := by
  obtain ⟨total, registry, result, active, discovers, activates, knows⟩ :=
    exists_registers_plugins options fresh version
  let ready : Session := { session with registry := ⟨registry.plugins, active⟩ }
  have readyReports : ready.Reports := reports
  unfold execute executeBy
  cases result with
  | error error =>
      refine ⟨1, session.files, ?_, Or.inr ⟨rfl, rfl, fun known => ?_⟩⟩
      · refine discovers.bindLeaves (activates.bindLeaves ?_)
        refine (leaves_note _ _).bind ?_
        refine (leaves_report readyReports _).bind ?_
        exact ⟨rfl, (leaves_report readyReports _).files⟩
      · cases knows.mp known
  | ok =>
      obtain ⟨succeeds, fails⟩ := leaves_createConfig named readyReports
      cases writes : session.files.writeDefaultConfig path options.force with
      | ok written =>
          have handles := leaves_handle asked (succeeds written writes) path?
            surroundings.build surroundings.isTerminal
          refine ⟨0, written, ?_, Or.inl ⟨rfl, knows.mpr rfl, rfl⟩⟩
          exact discovers.bindLeaves
            (activates.bindLeaves (handles.bind ⟨rfl, handles.files⟩))
      | error error =>
          have handles := leaves_handle asked (fails error writes) path?
            surroundings.build surroundings.isTerminal
          refine ⟨1, session.files, ?_,
            Or.inr ⟨rfl, rfl, fun _ => ⟨error, rfl⟩⟩⟩
          exact discovers.bindLeaves
            (activates.bindLeaves (handles.bind ⟨rfl, handles.files⟩))

end Work

namespace FileTree

theorem Holds.writeDefaultConfig {files : FileTree} {path : String}
    {place : Place} {bytes : List UInt8}
    (holds : files.Holds path place bytes) (force : Bool) :
    files.writeDefaultConfig path force =
      if force then .ok (files.put place (.file defaultConfig.toUTF8.toList))
      else .error (.alreadyExists path) := by
  rw [FileTree.writeDefaultConfig, holds.has, holds.write]
  cases force <;> rfl

end FileTree

namespace Options

variable {options : Options} {path : String} {files : FileTree}

/-- The log of the options is written to no file, or not to the place of the
path. -/
def LogsApart (options : Options) (files : FileTree) (path : String) : Prop :=
  ∀ log prepared, options.logFile = some log →
    Log.Logger.prepareFile files log = .ok prepared →
    prepared.target? log ≠ prepared.target? path

/-- The outcome for a file that is not sealed: it is overwritten if that is
forced and the plugins are known, and stays otherwise. -/
theorem carryOut_createConfig {path? : Option String}
    {surroundings : Surroundings} {device : Device}
    (asked : options.request = .createConfig)
    (named : options.configFile = some path) (prints : device ≠ .crashing)
    {place : Place} {bytes : List UInt8}
    (holds : files.Holds path place bytes) :
    let carried := options.carryOut path? surroundings device files
    (carried.exitCode = 0 ∧ options.force = true ∧ options.KnowsPlugins ∨
      carried.exitCode = 1 ∧ ¬ (options.force = true ∧ options.KnowsPlugins)) ∧
    (options.LogsApart files path → carried.files.read path =
      if carried.exitCode = 0 then .ok defaultConfig.toUTF8.toList
      else files.read path) := by
  obtain ⟨prepared, made, exits, logs⟩ :=
    carryOut_cases options path? surroundings device files
  have holdsPrepared : prepared.Holds path place bytes := by
    rcases made with rfl | ⟨log, -, prepares⟩
    · exact holds
    · obtain ⟨folder, names, makes⟩ := Log.Logger.exists_makeFolders prepares
      exact holds.of_makeFolders makes
  have reports : (opening device prepared).Reports := Or.inr prints
  obtain ⟨code, after, leaves, outcome⟩ :=
    Work.exists_leaves_execute asked named reports rfl rfl
  have writes := holdsPrepared.writeDefaultConfig options.force
  intro carried
  have exit : carried.exitCode = code := exits code leaves.ending
  have target : prepared.target? path = some place := by
    rw [FileTree.target?, holdsPrepared.destination]
  -- What the file holds when the request is done, it holds when the log is
  -- written.
  have kept : ∀ new, after.Holds path place new →
      (∀ log, prepared.target? log ≠ some place →
        after.target? log ≠ some place) →
      options.LogsApart files path → carried.files.read path = .ok new := by
    intro new holdsAfter steady apart
    rcases logs with same | ⟨log, bytes, named, prepares, written⟩
    · rw [same, leaves.files]
      exact holdsAfter.read
    · have away : prepared.target? log ≠ some place :=
        target ▸ apart log prepared named prepares
      rw [leaves.files] at written
      exact (holdsAfter.of_write (steady log away) written).read
  rcases outcome with ⟨rfl, known, written⟩ | ⟨rfl, rfl, fails⟩
  · have written : (if options.force then _ else _) = Except.ok after :=
      writes.symm.trans written
    cases forced : options.force with
    | false =>
        rw [forced] at written
        cases written
    | true =>
        rw [forced] at written
        cases written
        refine ⟨Or.inl ⟨exit, rfl, known⟩, fun apart => ?_⟩
        rw [exit, if_pos rfl]
        exact kept _ (holdsPrepared.put _)
          (fun _ away => holdsPrepared.target?_ne _ away) apart
  · constructor
    · refine Or.inr ⟨exit, ?_⟩
      rintro ⟨forced, known⟩
      obtain ⟨error, failed⟩ := fails known
      have written := writes.symm.trans failed
      rw [forced] at written
      cases written
    · intro apart
      rw [exit, if_neg (by decide), holds.read]
      exact kept bytes holdsPrepared (fun _ away => away) apart

end Options

theorem Options.load_of_missing {options : Options} {path : String}
    {files : FileTree} (named : options.configFile = some path)
    (missing : files.has path = false) :
    (options.load files).result = .error (.notFound path) := by
  have absent : (options.configFile.isSome && !files.has path) = true := by
    rw [named, missing]
    rfl
  rw [load_eq_loadFrom named, loadFrom, if_pos absent]

theorem Options.load_of_unparsed {options : Options} {path document : String}
    {files : FileTree} {reason : Toml.Error}
    (named : options.configFile = some path)
    (read : files.readText path = .ok document)
    (unparsed : Toml.Table.ofText document = .error reason) :
    (options.load files).result = .error (.parse path reason) := by
  have present : ¬ (options.configFile.isSome && !files.has path) = true := by
    simp [FileTree.has_of_readText read]
  rw [load_eq_loadFrom named]
  simp only [loadFrom, if_neg present, read, unparsed]

section

variable {words : List String} {options : Options} {surroundings : Surroundings}
  {device : Device} {files : FileTree}
  (reads : Options.ofWords words = .ok options)

include reads

theorem execute_of_load_error {error : ConfigError}
    (fails : (options.normalise.load files).result = .error error) :
    execute words surroundings device files =
      ⟨1, "", error.message ++ "\n", files⟩ := by
  rw [execute, reads]
  dsimp only
  rw [fails]

theorem execute_of_load {path? : Option String}
    (loads : (options.normalise.load files).result = .ok path?) :
    execute words surroundings device files =
      (options.normalise.load files).options.carryOut path? surroundings device
        files := by
  rw [execute, reads]
  dsimp only
  rw [loads]

/-- The file that is named has to be there, and to be loaded, before it is
created. -/
theorem execute_createConfig {path : String}
    (asked : options.request = .createConfig)
    (named : options.configFile = some path) (prints : device ≠ .crashing) :
    let loaded := options.normalise.load files
    let done := execute words surroundings device files
    (files.has path = false → loaded.result = .error (.notFound path)) ∧
    (∀ error, loaded.result = .error error →
      done.exitCode = 1 ∧ done.files = files) ∧
    (files.isFile path = true → ∀ path?, loaded.result = .ok path? →
      (done.exitCode = 0 ∧ options.force = true ∧ loaded.options.KnowsPlugins ∨
        done.exitCode = 1 ∧
        ¬ (options.force = true ∧ loaded.options.KnowsPlugins)) ∧
      (loaded.options.LogsApart files path → done.files.read path =
        if done.exitCode = 0 then .ok defaultConfig.toUTF8.toList
        else files.read path)) := by
  intro loaded done
  refine ⟨Options.load_of_missing named, ?_, ?_⟩
  · intro error fails
    have stopped : done = ⟨1, "", error.message ++ "\n", files⟩ :=
      execute_of_load_error reads fails
    rw [stopped]
    exact ⟨rfl, rfl⟩
  · intro present path? loads
    have carried : done = loaded.options.carryOut path? surroundings device
        files :=
      execute_of_load reads loads
    have normalised : options.normalise.configFile = some path := named
    have loadedFrom : loaded = options.normalise.loadFrom files path :=
      Options.load_eq_loadFrom normalised files
    rw [loadedFrom] at loads
    obtain ⟨-, document, table, read, -, -, filled⟩ :=
      Options.exists_table_of_loadFrom loads
    rw [← loadedFrom] at filled
    have request : loaded.options.request = .createConfig := by
      rw [filled]
      exact asked
    have configFile : loaded.options.configFile = some path := by
      rw [filled]
      exact named
    have force : loaded.options.force = options.force := by
      rw [filled]
      rfl
    -- The configuration has been read from the file, which therefore is not
    -- sealed.
    obtain ⟨place, bytes, holds⟩ :=
      FileTree.exists_holds_of_readText present read
    rw [carried, ← force]
    exact Options.carryOut_createConfig request configFile prints holds

end

/-- A configuration file that is there is overwritten, if that is forced. -/
theorem execute_createConfig_forced :
    let files : FileTree :=
      ⟨[(["c.toml"], .file "# old\n".toUTF8.toList)], [], none⟩
    let done := execute ["--init", "--force", "--config", "c.toml"]
      ⟨⟨"", ""⟩, 1, false, false, 0, 0, ⟨"", ""⟩⟩ .working files
    done.exitCode = 0 ∧ done.files.read "c.toml" =
      .ok defaultConfig.toUTF8.toList := by
  intro files done
  let options : Options :=
    { Options.unset with
      configFile := some "c.toml", createConfig := true, force := true }
  have reads : Options.ofWords ["--init", "--force", "--config", "c.toml"] =
      .ok options := by cbv
  have isName : FileTree.IsName "c.toml" := by decide +kernel
  have holds : files.Holds "c.toml" ["c.toml"] "# old\n".toUTF8.toList :=
    isName.holds rfl (by decide +kernel)
  have read : files.readText "c.toml" = .ok "# old\n" :=
    holds.readText (by decide +kernel)
  have parsed : Toml.Table.ofText "# old\n" = .ok [] := by cbv
  have named : options.normalise.configFile = some "c.toml" := rfl
  obtain ⟨loads, filled⟩ := Options.load_of_valid named read parsed rfl
  have known : (options.normalise.load files).options.KnowsPlugins := by
    have none : (options.normalise.load files).options.plugins = [] := by
      rw [filled]
      decide +kernel
    rw [Options.KnowsPlugins, none]
    exact List.forall_mem_nil _
  have apart : (options.normalise.load files).options.LogsApart files
      "c.toml" := by
    intro log prepared logs
    rw [filled] at logs
    cases logs
  obtain ⟨-, -, creates⟩ :=
    execute_createConfig reads
      rfl rfl (show Device.working ≠ .crashing by decide)
  obtain ⟨outcome, contents⟩ := creates holds.isFile _ loads
  rcases outcome with ⟨exit, -⟩ | ⟨-, refused⟩
  · refine ⟨exit, ?_⟩
    rw [contents apart, if_pos exit]
  · exact absurd ⟨rfl, known⟩ refused

/-- A file that is missing is not created, and one that is no configuration is
not overwritten. -/
theorem missing_config_is_not_created :
    let surroundings : Surroundings :=
      ⟨⟨"", ""⟩, 1, false, false, 0, 0, ⟨"", ""⟩⟩
    let empty : FileTree := ⟨[], [], none⟩
    let broken : FileTree :=
      ⟨[(["new.toml"], .file "=".toUTF8.toList)], [], none⟩
    let created :=
      execute ["--init", "--config", "new.toml"] surroundings .working empty
    let overwritten :=
      execute ["--init", "--force", "--config", "new.toml"] surroundings
        .working broken
    (created.exitCode = 1 ∧ created.files.has "new.toml" = false) ∧
      overwritten.exitCode = 1 ∧
      overwritten.files.read "new.toml" = .ok "=".toUTF8.toList := by
  intro surroundings empty broken created overwritten
  have isName : FileTree.IsName "new.toml" := by decide +kernel
  constructor
  · let options : Options :=
      { Options.unset with configFile := some "new.toml", createConfig := true }
    have reads : Options.ofWords ["--init", "--config", "new.toml"] =
        .ok options := by cbv
    have missing : empty.has "new.toml" = false := isName.has_eq_false rfl rfl
    have named : options.normalise.configFile = some "new.toml" := rfl
    have stopped : created = ⟨1, "", _, empty⟩ :=
      execute_of_load_error reads (Options.load_of_missing named missing)
    rw [stopped]
    exact ⟨rfl, missing⟩
  · let options : Options :=
      { Options.unset with
        configFile := some "new.toml", createConfig := true, force := true }
    have reads : Options.ofWords ["--init", "--force", "--config", "new.toml"] =
        .ok options := by
      cbv
    have holds : broken.Holds "new.toml" ["new.toml"] "=".toUTF8.toList :=
      isName.holds rfl (by decide +kernel)
    have read : broken.readText "new.toml" = .ok "=" :=
      holds.readText (by decide +kernel)
    obtain ⟨reason, unparsed⟩ : ∃ reason,
        Toml.Table.ofText "=" = .error reason :=
      ⟨_, by cbv⟩
    have named : options.normalise.configFile = some "new.toml" := rfl
    have stopped : overwritten = ⟨1, "", _, broken⟩ :=
      execute_of_load_error reads (Options.load_of_unparsed named read unparsed)
    rw [stopped]
    exact ⟨rfl, holds.read⟩

end QueryLint
