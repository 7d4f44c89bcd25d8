import QueryLint.Session.Basic

/-!
# Reporting in a session

Reports go through the session's console to the sink of its outlet.
-/

namespace QueryLint.Work

def callConsole (call : Console → Sink → ConsoleCall) : Work Unit := do
  let session ← Work.session
  let result := call session.console (session.sinks.get session.consoleOutlet)
  modify fun session =>
    { session with
      console := result.console
      sinks := session.sinks.set session.consoleOutlet result.sink }
  note result.records
  if result.crashed then crash else Work.pure ()

def report (message : String) : Work Unit :=
  callConsole fun console sink => console.report sink message

def reportViolation (violation : Violation) : Work Unit := do
  enter [.reported violation]
  callConsole fun console sink => console.reportViolation sink violation

/-- Reports a unit that could not be processed. -/
def reportFailure (unit error : String) : Work Unit := do
  enter [.failed unit error]
  callConsole fun console sink => console.reportFailure sink unit error

def reportSummary (seconds : String) (unitCount : Nat) : Work Unit :=
  callConsole fun console sink => console.reportSummary sink seconds unitCount

end QueryLint.Work
