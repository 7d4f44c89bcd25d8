import QueryLint.Log.Record
import QueryLint.Output.Seconds
import QueryLint.Output.Sink
import QueryLint.Rule.Violation

/-!
# Console reports

The console writes violations, failures and the summary of a run, and keeps the
totals that the summary shows.  Totals count a call whether or not its line
arrives.  A crash while writing leaves the console unusable, and later lines
are only logged as lost.
-/

namespace QueryLint

/-- Totals of a console, and whether a crash has made it unusable.  Totals have
no bound: the 2^64 calls that would make a counter of 64 bits start again are
out of reach. -/
structure Console where
  warnings : Nat
  errors : Nat
  failures : Nat
  unusable : Bool
  deriving DecidableEq, Repr, Inhabited

/-- How a call to the console ends. -/
structure ConsoleCall where
  console : Console
  sink : Sink
  records : List Log.Record
  crashed : Bool
  deriving DecidableEq, Repr, Inhabited

/-- The text of the error met by whoever needs something that a crash has left
locked. -/
def lockedMessage : String :=
  "Internal synchronisation error (mutex poisoned). This indicates a panic occurred " ++
    "while holding a lock. PoisonError: PoisonError \x7b .. \x7d"

namespace Console

/-- A console that has reported nothing. -/
def start : Console :=
  ⟨0, 0, 0, false⟩

def writeLine (console : Console) (sink : Sink) (line : String) : ConsoleCall :=
  if console.unusable then
    ⟨console, sink, [⟨.error, "sqllint::reporter::console", lockedMessage⟩],
      false⟩
  else
    match sink.writeLine line with
    | (.done, after) => ⟨console, after, [], false⟩
    | (.refused reason, after) =>
        ⟨console, after,
          [⟨.warn, "sqllint::reporter::console",
            s!"Could not write report output: {reason}"⟩], false⟩
    | (.crashed, after) => ⟨{ console with unusable := true }, after, [], true⟩

def report (console : Console) (sink : Sink) (message : String) : ConsoleCall :=
  console.writeLine sink message

def count (console : Console) : Severity → Console
  | .off => console
  | .warning => { console with warnings := console.warnings + 1 }
  | .error => { console with errors := console.errors + 1 }

/-- Reports a violation, unless its severity is off. -/
def reportViolation (console : Console) (sink : Sink) (violation : Violation) :
    ConsoleCall :=
  if violation.severity = .off then ⟨console, sink, [], false⟩
  else (console.count violation.severity).writeLine sink violation.render

/-- The line that reports a unit which could not be processed. -/
def failureLine (unit error : String) : String :=
  s!"{unit}: processing failed: {error}"

/-- Reports a unit that could not be processed. -/
def reportFailure (console : Console) (sink : Sink) (unit error : String) :
    ConsoleCall :=
  { console with
    failures := console.failures + 1 }.writeLine sink (failureLine unit error)

/-- The summary of a run, which mentions failures only if there are any. -/
def summary (console : Console) (seconds : String) (unitCount : Nat) : String :=
  let totals :=
    s!"\nLinted {unitCount} SQL Sections in {seconds} seconds\n\n" ++
      s!"{console.errors} Errors.\n{console.warnings} Warnings"
  if console.failures = 0 then totals
  else totals ++ s!"\n{console.failures} Failures"

def reportSummary (console : Console) (sink : Sink) (seconds : String)
    (unitCount : Nat) :
    ConsoleCall :=
  console.writeLine sink (console.summary seconds unitCount)

def describe (console : Console) : String :=
  s!"ConsoleReporter \x7b warning_count: {console.warnings}, error_count: {console.errors}, " ++
    s!"failure_count: {console.failures} \x7d"

end Console

end QueryLint
