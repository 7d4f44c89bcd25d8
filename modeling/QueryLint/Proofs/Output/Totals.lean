import Mathlib.Data.List.Induction
import QueryLint.Proofs.Output.Writing

/-!
# What a console owes to its calls

The totals of a console are the numbers of errors, warnings and failures that it
was told of, whether or not their lines have arrived, and each summary shows
them as they are at that moment.  A working device has the lines of all calls in
order.  A device that crashes does so at the first line, and no later call gets
to it.
-/

namespace QueryLint

/-- What a console is asked to report. -/
inductive ConsoleRequest where
  | message (text : String)
  | violation (violation : Violation)
  | failure (unit error : String)
  | summary (seconds : String) (unitCount : Nat)
  deriving DecidableEq, Repr

namespace ConsoleRequest

def hasSeverity (severity : Severity) : ConsoleRequest → Bool
  | violation found => found.severity = severity
  | _ => false

def isFailure : ConsoleRequest → Bool
  | failure .. => true
  | _ => false

/-- Every request has a line but a violation of a rule that is off. -/
def writes (request : ConsoleRequest) : Bool :=
  !request.hasSeverity .off

def errorCount (requests : List ConsoleRequest) : Nat :=
  requests.countP (hasSeverity .error)

def warningCount (requests : List ConsoleRequest) : Nat :=
  requests.countP (hasSeverity .warning)

def failureCount (requests : List ConsoleRequest) : Nat :=
  requests.countP isFailure

/-- The lines of a summary. -/
def summaryLines (seconds : String) (unitCount errors warnings failures : Nat) :
    List String :=
  ["", s!"Linted {unitCount} SQL Sections in {seconds} seconds", "",
    s!"{errors} Errors.", s!"{warnings} Warnings"] ++ if failures = 0 then []
      else [s!"{failures} Failures"]

/-- What the request writes, if it writes, when there have been others before
it. -/
def line? (earlier : List ConsoleRequest) : ConsoleRequest → Option String
  | message text => some text
  | violation found => if found.severity = .off then none else some found.render
  | failure unit error => some (Console.failureLine unit error)
  | summary seconds unitCount =>
      some ("\n".intercalate
        (summaryLines seconds unitCount (errorCount earlier)
          (warningCount earlier) (failureCount earlier)))

/-- The lines of requests that come after others. -/
def linesAfter (earlier : List ConsoleRequest) :
    List ConsoleRequest → List String
  | [] => []
  | request :: rest =>
      (request.line? earlier).toList ++ linesAfter (earlier ++ [request]) rest

def lines (requests : List ConsoleRequest) : List String :=
  linesAfter [] requests

theorem linesAfter_concat (earlier requests : List ConsoleRequest)
    (request : ConsoleRequest) :
    linesAfter earlier (requests ++ [request]) =
      linesAfter earlier requests ++
      (request.line? (earlier ++ requests)).toList := by
  induction requests generalizing earlier with
  | nil => simp [linesAfter]
  | cons first rest ih => simp [linesAfter, ih]

theorem lines_concat (requests : List ConsoleRequest)
    (request : ConsoleRequest) :
    lines (requests ++ [request]) =
      lines requests ++ (request.line? requests).toList :=
  linesAfter_concat [] requests request

theorem line?_eq_none_iff {earlier : List ConsoleRequest}
    {request : ConsoleRequest} :
    request.line? earlier = none ↔ request.writes = false := by
  cases request with
  | violation found =>
      by_cases off : found.severity = .off <;>
        simp [writes, hasSeverity, line?, off]
  | _ => exact ⟨nofun, nofun⟩

theorem writes_of_line?_eq_some {earlier : List ConsoleRequest}
    {request : ConsoleRequest} {line : String}
    (some : request.line? earlier = some line) : request.writes = true := by
  rw [← Bool.not_eq_false, ← line?_eq_none_iff, some]
  exact Option.some_ne_none line

end ConsoleRequest

namespace Console

open ConsoleRequest

def call (console : Console) (sink : Sink) : ConsoleRequest → ConsoleCall
  | .message text => console.report sink text
  | .violation found => console.reportViolation sink found
  | .failure unit error => console.reportFailure sink unit error
  | .summary seconds unitCount => console.reportSummary sink seconds unitCount

/-- The console and its sink after requests, from the beginning. -/
def after (device : Device) (requests : List ConsoleRequest) : Console × Sink :=
  requests.foldl
    (fun (console, sink) request =>
      let call := console.call sink request
      (call.console, call.sink))
    (start, .onto device)

/-- The console with its totals as the request leaves them. -/
def counted (console : Console) : ConsoleRequest → Console
  | .violation found => console.count found.severity
  | .failure .. => { console with failures := console.failures + 1 }
  | _ => console

theorem summary_eq_intercalate (console : Console) (seconds : String)
    (unitCount : Nat) :
    console.summary seconds unitCount = "\n".intercalate
      (summaryLines seconds unitCount console.errors console.warnings
        console.failures) := by
  rw [summary, summaryLines]
  apply String.toList_inj.mp
  by_cases none : console.failures = 0
  · simp [none, toString]
  · simp [none, toString]

/-- A line changes nothing about the console, unless the device crashes. -/
theorem writeLine_console (console : Console) (sink : Sink) (line : String) :
    (console.writeLine sink line).console =
      { console with
        unusable := console.unusable ||
          (console.writeLine sink line).crashed } := by
  obtain ⟨warnings, errors, failures, unusable⟩ := console
  cases unusable with
  | true => rfl
  | false =>
      rw [writeLine, if_neg Bool.false_ne_true]
      split <;> rfl

theorem writeLine_of_unusable {console : Console}
    (unusable : console.unusable = true) (sink : Sink) (line : String) :
    (console.writeLine sink line).sink = sink ∧
      (console.writeLine sink line).crashed = false := by
  rw [writeLine, if_pos unusable]
  exact ⟨rfl, rfl⟩

theorem written_writeLine_of_working {console : Console}
    (usable : console.unusable = false) {sink : Sink}
    (working : sink.device = .working) (line : String) :
    (console.writeLine sink line).sink.written =
      sink.written ++ (line ++ "\n") := by
  have result : sink.writeLine line =
      (.done, { sink with written := sink.written ++ line ++ "\n" }) := by
    simp only [Sink.writeLine, Sink.write, Sink.flush, working]
  simp only [writeLine, usable, Bool.false_eq_true, if_false, result]
  exact String.append_assoc

/-- The totals are those of the requests. -/
structure Tells (console : Console) (requests : List ConsoleRequest) :
    Prop where
  errors : console.errors = errorCount requests
  warnings : console.warnings = warningCount requests
  failures : console.failures = failureCount requests

theorem counted_totals (console : Console) (request : ConsoleRequest) :
    (console.counted request).errors =
        console.errors + (if request.hasSeverity .error then 1 else 0) ∧
      (console.counted request).warnings =
        console.warnings + (if request.hasSeverity .warning then 1 else 0) ∧
      (console.counted request).failures =
        console.failures + (if request.isFailure then 1 else 0) ∧
      (console.counted request).unusable = console.unusable := by
  cases request with
  | violation found =>
      cases severity : found.severity <;>
        simp [counted, count, hasSeverity, isFailure, severity]
  | _ => exact ⟨rfl, rfl, rfl, rfl⟩

namespace Tells

variable {console : Console} {requests : List ConsoleRequest}

theorem counted (tells : console.Tells requests) (request : ConsoleRequest) :
    (console.counted request).Tells (requests ++ [request]) := by
  obtain ⟨errors, warnings, failures, -⟩ := console.counted_totals request
  constructor
  · rw [errors, tells.errors, errorCount, errorCount, List.countP_append,
      List.countP_singleton]
  · rw [warnings, tells.warnings, warningCount, warningCount,
      List.countP_append, List.countP_singleton]
  · rw [failures, tells.failures, failureCount, failureCount,
      List.countP_append, List.countP_singleton]

theorem writeLine (tells : console.Tells requests) (sink : Sink)
    (line : String) :
    (console.writeLine sink line).console.Tells requests := by
  rw [writeLine_console]
  exact ⟨tells.errors, tells.warnings, tells.failures⟩

/-- A call writes the line of its request, if there is one. -/
theorem call_eq (tells : console.Tells requests) (sink : Sink)
    (request : ConsoleRequest) :
    console.call sink request =
      match request.line? requests with
      | none => ⟨console, sink, [], false⟩
      | some line => (console.counted request).writeLine sink line := by
  cases request with
  | message text => rfl
  | violation found =>
      simp only [call, reportViolation, line?]
      split_ifs <;> rfl
  | failure unit error => rfl
  | summary seconds unitCount =>
      simp only [call, reportSummary, summary_eq_intercalate, tells.errors,
        tells.warnings, tells.failures]
      rfl

end Tells

/-- The console and its sink are as requests leave them. -/
structure Follows (device : Device) (requests : List ConsoleRequest)
    (console : Console) (sink : Sink) : Prop where
  tells : console.Tells requests
  behind : sink.device = device
  unusable : console.unusable = true ↔
    device = .crashing ∧ ∃ request ∈ requests, request.writes = true
  written : device = .working →
    sink.written = String.join ((lines requests).map fun line => line ++ "\n")

namespace Follows

variable {device : Device} {requests : List ConsoleRequest} {console : Console}
  {sink : Sink} {request : ConsoleRequest}

theorem start (device : Device) :
    Follows device [] Console.start (.onto device) := by
  refine ⟨⟨rfl, rfl, rfl⟩, rfl, ?_, fun _ => rfl⟩
  simp [Console.start]

theorem silent (follows : Follows device requests console sink)
    (none : request.line? requests = none) :
    Follows device (requests ++ [request]) console sink := by
  have quiet : request.writes = false := line?_eq_none_iff.mp none
  have same : console.counted request = console := by
    cases request with
    | violation found =>
        have off : found.severity = .off := by
          simpa [writes, hasSeverity] using quiet
        rw [counted, off]
        rfl
    | _ => cases quiet
  refine ⟨?_, follows.behind, ?_, fun working => ?_⟩
  · rw [← same]
    exact follows.tells.counted request
  · simp [follows.unusable, quiet, or_and_right, exists_or]
  · rw [lines_concat, none, follows.written working]
    simp

/-- A line gets through to a crashing device only once. -/
theorem crashed_iff (follows : Follows device requests console sink)
    (request : ConsoleRequest) (line : String) :
    ((console.counted request).writeLine sink line).crashed = true ↔
      device = .crashing ∧ ¬ ∃ earlier ∈ requests, earlier.writes = true := by
  obtain ⟨-, -, -, unusable⟩ := console.counted_totals request
  rw [crashed_writeLine_iff, Returns, unusable, follows.unusable,
    follows.behind]
  by_cases crashing : device = .crashing
  · simp [crashing]
  · simp [crashing]

theorem wrote (follows : Follows device requests console sink) {line : String}
    (some : request.line? requests = some line) :
    Follows device (requests ++ [request])
      ((console.counted request).writeLine sink line).console
      ((console.counted request).writeLine sink line).sink := by
  obtain ⟨-, -, -, unusable⟩ := console.counted_totals request
  have noisy : request.writes = true := writes_of_line?_eq_some some
  refine ⟨(follows.tells.counted request).writeLine sink line, ?_, ?_,
    fun working => ?_⟩
  · exact ((uniform_writeLine line).device _ sink).trans follows.behind
  · have last : ∃ earlier ∈ requests ++ [request], earlier.writes = true :=
      ⟨request, List.mem_append_right _ (List.mem_singleton_self _), noisy⟩
    rw [writeLine_console, Bool.or_eq_true, unusable, follows.unusable,
      follows.crashed_iff, ← and_or_left, and_iff_left (em _),
      and_iff_left last]
  · have usable : (console.counted request).unusable = false := by
      rw [unusable, Bool.eq_false_iff, Ne, follows.unusable, working]
      simp
    rw [written_writeLine_of_working usable (follows.behind.trans working),
      lines_concat, some, follows.written working]
    simp

theorem step (follows : Follows device requests console sink)
    (request : ConsoleRequest) :
    Follows device (requests ++ [request]) (console.call sink request).console
      (console.call sink request).sink := by
  rw [follows.tells.call_eq]
  cases line : request.line? requests with
  | none => exact follows.silent line
  | some line => exact follows.wrote line

/-- A crashing device crashes at the first line and at no other. -/
theorem call_crashed_iff (follows : Follows device requests console sink)
    (request : ConsoleRequest) :
    (console.call sink request).crashed = true ↔
      device = .crashing ∧ request.writes = true ∧
      ¬ ∃ earlier ∈ requests, earlier.writes = true := by
  rw [follows.tells.call_eq]
  cases line : request.line? requests with
  | none => simp [line?_eq_none_iff.mp line]
  | some line =>
      rw [follows.crashed_iff, writes_of_line?_eq_some ‹_›]
      simp

/-- Nothing gets through a console that a crash has left unusable, to this sink
or another. -/
theorem call_of_unusable (follows : Follows device requests console sink)
    (unusable : console.unusable = true) (request : ConsoleRequest)
    (other : Sink) :
    (console.call other request).sink = other ∧
      (console.call other request).crashed = false := by
  rw [follows.tells.call_eq]
  cases request.line? requests with
  | none => exact ⟨rfl, rfl⟩
  | some line =>
      obtain ⟨-, -, -, kept⟩ := console.counted_totals request
      exact writeLine_of_unusable (kept.trans unusable) other line

theorem after (device : Device) (requests : List ConsoleRequest) :
    Follows device requests (after device requests).1
      (after device requests).2 := by
  induction requests using List.reverseRecOn with
  | nil => exact start device
  | append_singleton requests request ih =>
      rw [Console.after, List.foldl_append]
      exact ih.step request

end Follows

/-- Behind whatever device, and whatever has become of the lines before, a call
leaves the totals at the numbers of errors, warnings and failures so far.  A
violation of a rule that is off does nothing, and a summary shows the totals.  A
working device gets the lines of all calls in order.  A call crashes if it has
the first line for a crashing device; later ones leave every sink alone. -/
theorem calls_by_requests (device : Device) (requests : List ConsoleRequest)
    (request : ConsoleRequest) :
    let console := (after device requests).1
    let sink := (after device requests).2
    let call := console.call sink request
    let all := requests ++ [request]
    (call.console.errors = errorCount all ∧
      call.console.warnings = warningCount all ∧
        call.console.failures = failureCount all) ∧
      (request.hasSeverity .off = true → call = ⟨console, sink, [], false⟩) ∧
      (∀ seconds unitCount, request = .summary seconds unitCount →
        call = console.writeLine sink
          ("\n".intercalate
            (summaryLines seconds unitCount (errorCount requests)
              (warningCount requests) (failureCount requests)))) ∧
      (device = .working →
        call.sink.written = String.join
          ((lines all).map fun line => line ++ "\n")) ∧
      (call.crashed = true ↔ device = .crashing ∧ request.writes = true ∧
        ¬ ∃ earlier ∈ requests, earlier.writes = true) ∧
      (device = .crashing → (∃ earlier ∈ requests, earlier.writes = true) →
        ∀ other : Sink, (console.call other request).sink = other ∧
          (console.call other request).crashed = false) := by
  intro console sink call all
  have follows : Follows device requests console sink := .after device requests
  have next : Follows device all call.console call.sink := follows.step request
  refine ⟨⟨next.tells.errors, next.tells.warnings, next.tells.failures⟩,
    fun off => ?_, fun seconds unitCount same => ?_, next.written,
    follows.call_crashed_iff request, fun crashing written => ?_⟩
  · have none : request.line? requests = none :=
      line?_eq_none_iff.mpr (by simp [writes, off])
    exact (follows.tells.call_eq sink request).trans (by rw [none])
  · subst same
    exact follows.tells.call_eq sink _
  · exact follows.call_of_unusable
      (follows.unusable.mpr ⟨crashing, written⟩) request

/-- The device crashes at the line of the error; the failure after it counts,
and the summary gets through to no sink. -/
theorem calls_by_requests_behind_crashing_device :
    let found (severity : Severity) : ConsoleRequest :=
      .violation ⟨"a.sql", 1, 8, severity, "select-star", "Use of '*'"⟩
    let console := (after .crashing [found .off, found .error]).1
    let sink := (after .crashing [found .off, found .error]).2
    let last := console.call sink (.failure "b.sql" "it is gone")
    ((after .crashing [found .off]).1.call (after .crashing [found .off]).2
        (found .error)).crashed = true ∧
      last.console.errors = 1 ∧ last.console.warnings = 0 ∧
        last.console.failures = 1 ∧
      last.crashed = false ∧
      ∀ other : Sink, (console.call other (.summary "0.5" 2)).sink = other := by
  intro found console sink last
  obtain ⟨-, -, -, -, first, -⟩ :=
    calls_by_requests .crashing [found .off] (found .error)
  obtain ⟨⟨errors, warnings, failures⟩, -, -, -, again, -⟩ :=
    calls_by_requests .crashing [found .off, found .error]
      (.failure "b.sql" "it is gone")
  obtain ⟨-, -, -, -, -, alone⟩ :=
    calls_by_requests .crashing [found .off, found .error] (.summary "0.5" 2)
  have written : ∃ earlier ∈ [found .off, found .error],
      earlier.writes = true :=
    ⟨found .error, by decide, rfl⟩
  refine ⟨first.mpr ⟨rfl, rfl, by decide⟩, errors, warnings, failures, ?_,
    fun other => (alone rfl written other).1⟩
  exact Bool.eq_false_iff.mpr fun crashed => (again.mp crashed).2.2 written

end Console

end QueryLint
