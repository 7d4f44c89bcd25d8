import Mathlib.Data.List.TakeWhile
import QueryLint.Output.Console

/-!
# How writing ends

What a sink does with whole lines depends on the device behind it alone, and
never on what has been written before.  So a console that can be used at all
either always returns or always crashes.
-/

namespace QueryLint

/-- How writing a text with a line end to the device ends. -/
def Device.lineResult : Device → WriteResult
  | .working => .done
  | .unflushable _ => .done
  | .refusing reason => .refused reason
  | .full _ reason => .refused reason
  | .crashing => .crashed

namespace Sink

private theorem holdBack_device (sink : Sink) (size : Nat)
    (reason text : String) :
    (sink.holdBack size reason text).2.device = sink.device := by
  simp only [holdBack]
  split_ifs <;> rfl

private theorem writeFull_device (sink : Sink) (size : Nat)
    (reason text : String) :
    (sink.writeFull size reason text).2.device = sink.device := by
  have held := holdBack_device sink size reason
  simp only [writeFull]
  split_ifs
  · rfl
  · rfl
  · exact held text
  · rfl
  · have lines := held (String.ofList (wholeLines text.toList))
    split
    · next _ after result =>
        rw [result] at lines
        exact lines
    · next _ _ after _ result =>
        rw [result] at lines
        exact lines

@[simp] theorem write_device (sink : Sink) (text : String) :
    (sink.write text).2.device = sink.device := by
  unfold write
  split
  · rfl
  · rfl
  · rfl
  · rfl
  · exact writeFull_device sink _ _ text

@[simp] theorem writeLine_device (sink : Sink) (text : String) :
    (sink.writeLine text).2.device = sink.device := by
  have first := sink.write_device text
  unfold writeLine
  split
  · next afterText written =>
      rw [written] at first
      have second := afterText.write_device "\n"
      split
      · next afterEnd ended =>
          rw [ended] at second
          exact second.trans first
      · exact second.trans first
  · exact first

private theorem wholeLines_ne_nil {text : List Char} (line : '\n' ∈ text) :
    wholeLines text ≠ [] := by
  intro empty
  have skipped : (text.reverse.dropWhile fun character => character != '\n') =
      [] :=
    List.reverse_eq_nil_iff.mp empty
  have different := List.dropWhile_eq_nil_iff.mp skipped '\n'
    (List.mem_reverse.mpr line)
  simp at different

private theorem holdBack_result (sink : Sink) (size : Nat)
    (reason text : String) :
    (sink.holdBack size reason text).1 = .done ∨
      (sink.holdBack size reason text).1 = .refused reason := by
  simp only [holdBack]
  split_ifs <;> simp

private theorem writeFull_result {text : String} (line : '\n' ∈ text.toList)
    (sink : Sink) (size : Nat) (reason : String) :
    (sink.writeFull size reason text).1 = .refused reason := by
  have lines : (String.ofList (wholeLines text.toList)).isEmpty = false := by
    have whole := wholeLines_ne_nil line
    simpa using whole
  have held :=
    holdBack_result sink size reason (String.ofList (wholeLines text.toList))
  simp only [writeFull, lines, Bool.false_eq_true, if_false]
  split_ifs
  · rfl
  · split
    · rfl
    · next _ outcome _ unfinished result =>
        rw [result] at held
        rcases held with done | refused
        · exact (unfinished done).elim
        · exact refused

theorem write_result {text : String} (line : '\n' ∈ text.toList) (sink : Sink) :
    (sink.write text).1 = sink.device.lineResult := by
  have nonempty : text.isEmpty = false := by
    rw [Bool.eq_false_iff]
    intro empty
    rw [String.isEmpty_iff.mp empty] at line
    cases line
  unfold write
  split
  · next device => rw [device]; rfl
  · next device => rw [device]; rfl
  · next device => simp [device, nonempty, Device.lineResult]
  · next device => simp [device, nonempty, Device.lineResult]
  · next device => rw [device]; exact writeFull_result line sink _ _

theorem flush_ne_crashed (sink : Sink) : sink.flush ≠ .crashed := by
  unfold flush
  split
  · simp
  · simp
  · simp
  · simp
  · split_ifs <;> simp

private theorem lineResult_eq_crashed_iff (device : Device) :
    device.lineResult = .crashed ↔ device = .crashing := by
  cases device <;> simp [Device.lineResult]

private theorem write_crashing {sink : Sink}
    (crashing : sink.device = .crashing) (text : String) :
    (sink.write text).1 = .done ∨ (sink.write text).1 = .crashed := by
  simp only [write, crashing]
  split_ifs <;> simp

private theorem writeFull_ne_crashed
    (sink : Sink) (size : Nat) (reason text : String) :
    (sink.writeFull size reason text).1 ≠ .crashed := by
  have held : ∀ piece, (sink.holdBack size reason piece).1 ≠ .crashed := by
    intro piece
    rcases holdBack_result sink size reason piece with done | refused
    · simp [done]
    · simp [refused]
  simp only [writeFull]
  split_ifs
  · simp
  · simp
  · exact held text
  · simp
  · have lines := held (String.ofList (wholeLines text.toList))
    split
    · simp
    · next _ _ _ _ result =>
        rw [result] at lines
        exact lines

private theorem crashing_of_write {sink : Sink} {text : String}
    (crashed : (sink.write text).1 = .crashed) : sink.device = .crashing := by
  unfold write at crashed
  split at crashed
  · cases crashed
  · cases crashed
  · split_ifs at crashed
  · assumption
  · exact (writeFull_ne_crashed sink _ _ text crashed).elim

/-- Writing a line crashes on a crashing device, and on no other. -/
theorem writeLine_eq_crashed_iff (sink : Sink) (text : String) :
    (sink.writeLine text).1 = .crashed ↔ sink.device = .crashing := by
  have sameDevice := sink.write_device text
  unfold writeLine
  split
  · next afterText written =>
      rw [written] at sameDevice
      have ended := write_result (show '\n' ∈ "\n".toList by decide) afterText
      rw [← sameDevice, ← lineResult_eq_crashed_iff, ← ended]
      split
      · next afterEnd result =>
          rw [result]
          simp [flush_ne_crashed]
      · exact Iff.rfl
  · next unfinished =>
      constructor
      · exact crashing_of_write
      · intro crashing
        rcases write_crashing crashing text with done | crashed
        · exact (unfinished _ (Prod.ext done rfl)).elim
        · exact crashed

end Sink

namespace Console

/-- Whatever it writes, the console returns: it is out of use, or the device
behind the sink does not crash. -/
def Returns (console : Console) (device : Device) : Prop :=
  console.unusable = true ∨ device ≠ .crashing

theorem crashed_writeLine_iff (console : Console) (sink : Sink)
    (line : String) :
    (console.writeLine sink line).crashed = true ↔
      ¬ console.Returns sink.device := by
  have written := sink.writeLine_eq_crashed_iff line
  unfold writeLine
  split_ifs with unusable
  · simp [Returns, unusable]
  · split
    · next result => simp_all [Returns]
    · next result => simp_all [Returns]
    · next result => simp_all [Returns]

/-- The call keeps the device behind the sink, and it returns if the console
does. -/
structure Uniform (call : Console → Sink → ConsoleCall) : Prop where
  device : ∀ console sink, (call console sink).sink.device = sink.device
  returns : ∀ console sink, console.Returns sink.device →
    (call console sink).crashed = false ∧
      (call console sink).console.unusable = console.unusable

/-- What becomes of the console in the two calls is decided by the device, and
is the same. -/
def Interchangeable (call other : Console → Sink → ConsoleCall) : Prop :=
  ∀ console left right, left.device = right.device →
    (call console left).console = (other console right).console ∧
      (call console left).crashed = (other console right).crashed

theorem uniform_writeLine (line : String) :
    Uniform fun console sink => console.writeLine sink line := by
  constructor
  · intro console sink
    have device := sink.writeLine_device line
    unfold writeLine
    split_ifs
    · rfl
    · split <;> simp_all
  · intro console sink returns
    have crashed := console.crashed_writeLine_iff sink line
    constructor
    · exact Bool.eq_false_iff.mpr fun crashes => crashed.mp crashes returns
    · unfold writeLine at crashed ⊢
      split_ifs with unusable
      · rfl
      · split <;> simp_all

theorem interchangeable_writeLine (line other : String) :
    Interchangeable (fun console sink => console.writeLine sink line)
      fun console sink => console.writeLine sink other := by
  intro console left right sameDevice
  have leftCrashed := left.writeLine_eq_crashed_iff line
  have rightCrashed := right.writeLine_eq_crashed_iff other
  simp only [writeLine]
  split_ifs
  · exact ⟨rfl, rfl⟩
  · cases leftWritten : left.writeLine line with
    | mk leftResult leftAfter =>
        cases rightWritten : right.writeLine other with
        | mk rightResult rightAfter =>
            rw [leftWritten] at leftCrashed
            rw [rightWritten] at rightCrashed
            cases leftResult <;> cases rightResult <;> simp_all

/-- A call that changes totals before it writes a line is uniform as well. -/
theorem Uniform.after {call : Console → Sink → ConsoleCall}
    (uniform : Uniform call) {change : Console → Console}
    (keeps : ∀ console, (change console).unusable = console.unusable) :
    Uniform fun console sink => call (change console) sink := by
  constructor
  · exact fun console sink => uniform.device (change console) sink
  · intro console sink returns
    have changed : (change console).Returns sink.device :=
      returns.imp_left fun unusable => (keeps console).trans unusable
    obtain ⟨crashed, unusable⟩ := uniform.returns (change console) sink changed
    exact ⟨crashed, unusable.trans (keeps console)⟩

theorem uniform_reportFailure (unit error : String) :
    Uniform fun console sink => console.reportFailure sink unit error :=
  (uniform_writeLine (failureLine unit error)).after fun _ => rfl

theorem uniform_reportSummary (seconds : String) (unitCount : Nat) :
    Uniform fun console sink => console.reportSummary sink seconds unitCount :=
  ⟨fun console sink => (uniform_writeLine _).device console sink,
    fun console sink => (uniform_writeLine _).returns console sink⟩

theorem interchangeable_reportFailure (unit error other otherError : String) :
    Interchangeable (fun console sink => console.reportFailure sink unit error)
      fun console sink => console.reportFailure sink other otherError :=
  fun console => interchangeable_writeLine (failureLine unit error)
    (failureLine other otherError)
    { console with failures := console.failures + 1 }

theorem uniform_reportViolation (violation : Violation) :
    Uniform fun console sink => console.reportViolation sink violation := by
  by_cases off : violation.severity = .off
  · constructor
    · intro console sink
      simp [reportViolation, off]
    · intro console sink _
      simp [reportViolation, off]
  · have keeps : ∀ console : Console,
        (console.count violation.severity).unusable = console.unusable := by
      intro console
      cases violation.severity <;> rfl
    have uniform := (uniform_writeLine violation.render).after keeps
    simpa only [reportViolation, off, if_false] using uniform

theorem interchangeable_reportViolation (violation : Violation) :
    Interchangeable (fun console sink => console.reportViolation sink violation)
      fun console sink => console.reportViolation sink violation := by
  intro console left right sameDevice
  simp only [reportViolation]
  split_ifs
  · exact ⟨rfl, rfl⟩
  · exact interchangeable_writeLine _ _
      (console.count violation.severity) left right sameDevice

end Console

end QueryLint
