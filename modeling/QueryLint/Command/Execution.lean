import QueryLint.Command.Handling
import QueryLint.Command.Line
import QueryLint.Log.Logger
import QueryLint.Output.Seconds
import QueryLint.Run.Basic
import QueryLint.Timer

/-!
# Execution of a command line

The options of a command line and of the configuration file are carried out in
a session; its journal is written to the log.  The exit code tells whether
everything went well.
-/

namespace QueryLint

def executionTarget : String :=
  "sqllint::app::startup"

/-- What the execution needs to know of its surroundings: its own build, the
number of processors, what standard output is, the clock readings before and
after the run, and the moment for log records. -/
structure Surroundings where
  build : BuildInfo
  processors : Nat
  isTerminal : Bool
  escapes : Bool
  before : Nat
  after : Nat
  now : Log.Moment

/-- The seconds between two readings of a clock that counts nanoseconds, as
text. -/
def elapsedSeconds (before after : Nat) : String :=
  let elapsed := (Timer.idle.start before).elapsed after
  Seconds.render (Seconds.ofParts (elapsed / Seconds.nanosecondsPerSecond)
    (elapsed % Seconds.nanosecondsPerSecond))

/-- How a run over inputs is made. -/
abbrev Runner := RunSetup → List String → Work RunResult

namespace Work

/-- Reports what a run has come to; the value tells whether every unit could be
linted. -/
def conclude (surroundings : Surroundings) (result : RunResult) :
    Work Bool := do
  match result.report with
  | .error error =>
      diagnose error "Linting"
      report (userFacing error "Linting")
      return false
  | .ok runReport =>
      if 0 < result.fileCount then
        reportSummary (elapsedSeconds surroundings.before surroundings.after)
          result.fileCount
      note [⟨.info, executionTarget,
        s!"Linted {result.fileCount} unit(s): {runReport.dispatched} dispatched, " ++
          s!"{runReport.skipped} skipped, {runReport.failures.length} failed"⟩]
      return runReport.isClean

/-- Lints the inputs of the options in a run; the value tells whether everything
could be linted. -/
def lint (run : Runner) (options : Options) (surroundings : Surroundings) :
    Work Bool := do
  note (RuleSet.overrideRecords options.rules)
  match RuleSet.ofOverrides options.rules with
  | .error error =>
      diagnose error "Rule configuration"
      report (userFacing error "Rule configuration")
      return false
  | .ok rules =>
      match ← prepareActive with
      | .error error =>
          diagnose error "Plugin initialisation"
          return false
      | .ok () =>
          let session ← Work.session
          let setup : RunSetup :=
            { load := session.files.load
              visitor := rules.visitor
              maxParallel := surroundings.processors }
          let limited := options.maxParallel.elim setup setup.withMaxParallel
          let result ← run limited options.inputs
          conclude surroundings result

/-- Lints and cleans the plugins up. -/
def lintAndCleanUp (run : Runner) (options : Options)
    (surroundings : Surroundings) :
    Work Bool := do
  let success ← lint run options surroundings
  match ← cleanup with
  | .error error => diagnose error "Plugin cleanup"
  | .ok () => Work.pure ()
  return success

/-- Carries options out, with runs made in the given way; the value is the exit
code. -/
def executeBy (run : Runner) (options : Options) (path? : Option String)
    (surroundings : Surroundings) : Work Nat := do
  let code (success : Bool) : Nat := if success then 0 else 1
  match ← discover options.exclusions with
  | .error error =>
      diagnose error "Plugin discovery"
      return 1
  | .ok _ =>
      match ← activateNames options.plugins with
      | .error error =>
          diagnose error "Plugin activation"
          report error.message
          return 1
      | .ok () =>
          let response ← handle options path? surroundings.build
              surroundings.isTerminal
          if response.shouldLint then
            let success ← lintAndCleanUp run options surroundings
            return code (response.success && success)
          else return code response.success

/-- Carries options out, with runs that take one unit in after the other. -/
def execute (options : Options) (path? : Option String)
    (surroundings : Surroundings) :
    Work Nat :=
  executeBy runInputs options path? surroundings

end Work

/-- What an execution leaves: its exit code, what it has written, and the file
system. -/
structure Execution where
  exitCode : Nat
  standardOutput : String
  standardError : String
  files : FileTree
  deriving DecidableEq, Repr, Inhabited

def Options.describe (options : Options) : String :=
  s!"{options.request.name}/{options.inputs.length}"

/-- The record of the options that are carried out. -/
def Options.record (options : Options) : Log.Record :=
  ⟨.debug, executionTarget, s!"Final arguments: {options.describe}"⟩

/-- The line of the tool's own records, which come from no numbered place within
their part of the tool. -/
def ownLine : Nat := 0

/-- What is logged when the tool has left records. -/
def logRecords (logger? : Option Log.Logger) (now : Log.Moment)
    (records : List Log.Record) :
    Log.Logging :=
  records.foldl (fun logging record => logging.write now record (some ownLine))
    ⟨logger?, ""⟩

/-- The logger that options ask for. -/
def Options.loggerRequest (options : Options) (surroundings : Surroundings) :
    Log.LoggerRequest :=
  { level? := options.logLevel.map Log.Threshold.name
    layout? := options.logLayout.map Log.Layout.name
    path? := options.logFile
    colored := options.useColor surroundings.isTerminal &&
      surroundings.escapes }

/-- The exit code of a crash. -/
def crashCode : Nat := 101

def Options.carryOut (options : Options) (path? : Option String)
    (surroundings : Surroundings) (device : Device) (files : FileTree) :
    Execution :=
  let (logger?, files, warning) :=
    match Log.Logger.ofRequest (options.loggerRequest surroundings) files with
    | .ok (logger, files) => (some logger, files, "")
    | .error error =>
        (none, files,
          s!"Warning: could not initialise logging: {error.message}\n")
  let sinks := { Sinks.fresh with standard := .onto device }
  let session := Session.start apiVersion .standard sinks files
  let done := Work.execute options path? surroundings session
  let records := options.record :: journalRecords done.journal
  let (logged, files) :=
    (logRecords logger? surroundings.now records).finish done.session.files
  { exitCode :=
      match done.ending with
      | .value code => code
      | .crash => crashCode
    standardOutput := done.session.sinks.standard.written
    standardError := warning ++ logged
    files := files }

/-- Executes a command line, with a device behind standard output. -/
def execute (words : List String) (surroundings : Surroundings)
    (device : Device) (files : FileTree) : Execution :=
  match Options.ofWords words with
  | .error .help =>
      ⟨0, ((Sink.onto device).write helpText).2.written, "", files⟩
  | .error (.error reason) => ⟨2, "", s!"error: {reason.message}\n", files⟩
  | .ok options =>
      let loaded := options.normalise.load files
      match loaded.result with
      | .error error => ⟨1, "", error.message ++ "\n", files⟩
      | .ok path? => loaded.options.carryOut path? surroundings device files

end QueryLint
