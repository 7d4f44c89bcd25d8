import QueryLint.Plugin.Host
import QueryLint.Run.Error
import QueryLint.Run.Visitor
import QueryLint.Session.Reporting
import QueryLint.Staging.Intake
import QueryLint.Staging.Units

/-!
# Runs

A run stages its units, reports those that could not be loaded, and dispatches
the contents in ascending order of their units.  A content that a directive
suppresses as a whole is skipped; any other is shown to the visitor and then to
the active plugins.  Every content is given up at the end.
-/

namespace QueryLint

def runTarget : String :=
  "sqllint::ingest::processor"

/-- What a run needs: how units are loaded, who visits them, and how many may
be loaded at a time. -/
structure RunSetup where
  load : Loader
  visitor : Visitor
  maxParallel : Nat

/-- The setup with another limit, which is at least one. -/
def RunSetup.withMaxParallel (setup : RunSetup) (limit : Nat) : RunSetup :=
  { setup with maxParallel := max limit 1 }

/-- Most units that may be loaded at a time; a run with a higher limit
crashes. -/
def maxPermits : Nat :=
  UInt64.size / 8 - 1

/-- Totals of a run, with the units that could not be loaded. -/
structure RunReport where
  staged : Nat
  dispatched : Nat
  skipped : Nat
  released : Nat
  failures : List StageFailure
  deriving DecidableEq, Repr, Inhabited

namespace RunReport

def isClean (report : RunReport) : Bool :=
  report.failures.isEmpty

end RunReport

/-- How a run ends, with the number of units that were loaded. -/
structure RunResult where
  fileCount : Nat
  report : Except RunError RunReport

namespace Work

def passVerdict : Verdict → Work Unit
  | .reported violation => reportViolation violation
  | .silenced unit rule line =>
      note [⟨.trace, "sqllint::rules::visitor",
        s!"{unit}: {rule.name} suppressed on line {line}"⟩]

/-- Passes verdicts on, in order. -/
def passVerdicts : List Verdict → Work Unit
  | [] => Work.pure ()
  | verdict :: others => do
      passVerdict verdict
      passVerdicts others

def visit (visitor : Visitor) (view : UnitView) : Work (Option RuleError) := do
  enter [.visited view]
  let visit := visitor view
  passVerdicts visit.verdicts
  return visit.error?

/-- Shows a content to the visitor and to the active plugins. -/
def dispatch (setup : RunSetup) (content : Content)
    (suppressions : Suppressions) :
    Work (Option DispatchError) := do
  note [⟨.debug, runTarget,
    s!"Dispatching '{content.unit}' ({suppressions.size} suppression directives)"⟩]
  let view : UnitView := ⟨content.unit, suppressions, content.bytes⟩
  match ← visit setup.visitor view with
  | some error => return some (.rules error)
  | none =>
      match ← activateAll view with
      | .error error => return some (.plugins error)
      | .ok () => return none

/-- Dispatches or skips contents in order, up to the first on which something
fails. -/
def drain (setup : RunSetup) :
    List Content → RunReport → Work (Except RunError RunReport)
  | [], report => return .ok report
  | content :: rest, report => do
      let suppressions := content.suppressions
      note (Content.scanRecords content.lines)
      note (content.coverageRecords suppressions)
      if content.whollySuppressed suppressions then
        note [⟨.info, runTarget,
          s!"Skipping '{content.unit}': every line is suppressed"⟩]
        enter [.released content]
        drain setup rest
          { report with
            skipped := report.skipped + 1, released := report.released + 1 }
      else
        match ← dispatch setup content suppressions with
        | some source =>
            enter ((content :: rest).map .released)
            note [⟨.error, runTarget,
              s!"Dispatch of '{content.unit}' failed: {source.message}"⟩]
            return .error (.dispatch content.unit source)
        | none =>
            enter [.released content]
            drain setup rest
              { report with
                dispatched := report.dispatched + 1
                released := report.released + 1 }

/-- Reports units that could not be loaded. -/
def reportFailures : List StageFailure → Work Unit
  | [] => Work.pure ()
  | failure :: others => do
      note [⟨.error, runTarget,
        s!"Could not stage '{failure.unit}': {failure.error.message}"⟩]
      reportFailure failure.unit failure.error.message
      reportFailures others

/-- A run over units, given what taking them in has come to. -/
def runTaken (setup : RunSetup) (units : List String) (intake : Intake) :
    Work RunResult := do
  note [⟨.debug, runTarget,
    s!"Staging {units.length} unit(s), max {setup.maxParallel} in parallel"⟩]
  if maxPermits < setup.maxParallel then crash
  else
    enter intake.journal
    reportFailures intake.failures
    let staged := intake.stager.count
    let report ← drain setup intake.stager.takeAll.1
        ⟨staged, 0, 0, 0, intake.failures⟩
    match report with
    | .error error => return ⟨staged, .error error⟩
    | .ok report =>
        note [⟨.debug, runTarget,
          s!"Run complete: {report.staged} staged, {report.dispatched} dispatched, " ++
            s!"{report.skipped} skipped, {report.failures.length} failed"⟩]
        return ⟨staged, .ok report⟩

/-- A run over units that are taken in one after the other. -/
def run (setup : RunSetup) (units : List String) : Work RunResult :=
  runTaken setup units (Intake.ofUnits setup.load units)

/-- A run over the units of inputs. -/
def runInputs (setup : RunSetup) (inputs : List String) : Work RunResult :=
  run setup (unitsOf inputs)

end Work

end QueryLint
