import QueryLint.Content.Cursor
import QueryLint.Proofs.Run.Skipping

/-!
# Contents that differ in their line ends

Content that uses line feeds alone may be rewritten to carriage returns, or to
both characters at any of its line ends.  The lines stay the same, and with them
whatever is computed from lines: directives, verdicts and dumps.
-/

namespace QueryLint

/-- A byte with a carriage return before it, if it is a line feed at a chosen
position. -/
def withReturn (chosen : Nat → Bool) (numbered : UInt8 × Nat) : List UInt8 :=
  if numbered.1 = 10 ∧ chosen numbered.2 then [13, 10] else [numbered.1]

/-- The bytes with a carriage return before the line feeds at chosen
positions. -/
def withReturns (chosen : Nat → Bool) (bytes : List UInt8) : List UInt8 :=
  bytes.zipIdx.flatMap (withReturn chosen)

/-- The bytes with a carriage return in place of every line feed. -/
def returnsOnly (bytes : List UInt8) : List UInt8 :=
  bytes.map fun byte => if byte = 10 then 13 else byte

/-- The bytes of a text after line feeds have been rewritten, any of them to
both characters or all of them to carriage returns. -/
inductive Reended (bytes : List UInt8) : List UInt8 → Prop where
  | withReturns (chosen : Nat → Bool) : Reended bytes (withReturns chosen bytes)
  | returnsOnly : Reended bytes (returnsOnly bytes)

theorem splitLines_cons {byte : UInt8} (notReturn : byte ≠ 13)
    (notFeed : byte ≠ 10) (rest : List UInt8) :
    splitLines (byte :: rest) = continueLine byte (splitLines rest) := by
  rw [splitLines]
  · exact fun _ isReturn => absurd isReturn notReturn
  · exact notReturn
  · exact notFeed

theorem splitLines_return {rest : List UInt8} (noFeed : rest.head? ≠ some 10) :
    splitLines (13 :: rest) = [] :: splitLines rest := by
  cases rest with
  | nil => rfl
  | cons byte rest =>
      rw [splitLines]
      exact fun _ feedNext => noFeed (congrArg List.head? feedNext)

/-- Before a byte other than a carriage return only the lines of the rest
matter. -/
private theorem splitLines_cons_congr
    {byte : UInt8} (notReturn : byte ≠ 13) {rest other : List UInt8}
    (same : splitLines other = splitLines rest) :
    splitLines (byte :: other) = splitLines (byte :: rest) := by
  by_cases isFeed : byte = 10
  · subst isFeed
    exact congrArg ([] :: ·) same
  · rw [splitLines_cons notReturn isFeed, splitLines_cons notReturn isFeed,
      same]

private theorem head?_returnsOnly (bytes : List UInt8) :
    (returnsOnly bytes).head? ≠ some 10 := by
  cases bytes with
  | nil => simp [returnsOnly]
  | cons byte rest =>
      by_cases isFeed : byte = 10
      · simp [returnsOnly, isFeed]
      · simp [returnsOnly, isFeed]

private theorem splitLines_withReturns {bytes : List UInt8}
    (noReturns : 13 ∉ bytes) (chosen : Nat → Bool) (start : Nat) :
    splitLines ((bytes.zipIdx start).flatMap (withReturn chosen)) =
      splitLines bytes := by
  induction bytes generalizing start with
  | nil => rfl
  | cons byte rest ih =>
      obtain ⟨notReturn, noReturns⟩ :=
        not_or.mp (mt List.mem_cons.mpr noReturns)
      have later := ih noReturns (start + 1)
      rw [List.zipIdx_cons, List.flatMap_cons, withReturn]
      split
      next both =>
        obtain ⟨isFeed, -⟩ := both
        change byte = 10 at isFeed
        rw [isFeed]
        exact congrArg ([] :: ·) later
      next => exact splitLines_cons_congr (Ne.symm notReturn) later

private theorem splitLines_returnsOnly
    {bytes : List UInt8} (noReturns : 13 ∉ bytes) :
    splitLines (returnsOnly bytes) = splitLines bytes := by
  induction bytes with
  | nil => rfl
  | cons byte rest ih =>
      obtain ⟨notReturn, noReturns⟩ :=
        not_or.mp (mt List.mem_cons.mpr noReturns)
      have later := ih noReturns
      change splitLines ((if byte = 10 then 13 else byte) ::
        returnsOnly rest) = _
      split
      next isFeed =>
        rw [splitLines_return (head?_returnsOnly rest), isFeed]
        exact congrArg ([] :: ·) later
      next => exact splitLines_cons_congr (Ne.symm notReturn) later

/-- Rewriting line ends changes no line. -/
theorem splitLines_of_reended {bytes other : List UInt8}
    (noReturns : 13 ∉ bytes) (reended : Reended bytes other) :
    splitLines other = splitLines bytes := by
  cases reended with
  | withReturns chosen => exact splitLines_withReturns noReturns chosen 0
  | returnsOnly => exact splitLines_returnsOnly noReturns

namespace Dump

/-- The dump of a unit shows its bytes through their lines alone. -/
theorem activate_congr
    {view other : UnitView} (sameUnit : other.unit = view.unit)
    (sameSuppressions : other.suppressions = view.suppressions)
    (sameLines : textLines other.bytes = textLines view.bytes)
    (dump : Dump) (sink : Sink) :
    dump.activate sink other = dump.activate sink view := by
  have rendered : render other = render view := by
    rw [render, render, header, header, sameUnit, sameSuppressions, sameLines]
  rw [activate, activate, rendered]

end Dump

namespace Content

/-- Lines, directives, the decision to skip, what the visitor reports and what
the dump plugin writes are the same however the lines end. -/
theorem same_of_reended
    {content other : Content} (noReturns : 13 ∉ content.bytes)
    (reended : Reended content.bytes other.bytes) :
    (Cursor.start other.bytes).readLines.1 =
      (Cursor.start content.bytes).readLines.1 ∧
    other.lineCount = content.lineCount ∧
    (Cursor.start other.bytes).scan.1 = (Cursor.start content.bytes).scan.1 ∧
    other.isSkipped = content.isSkipped ∧
    (other.unit = content.unit →
      (∀ (rules : RuleSet) (session : Session),
        Work.SameVisit rules.visitor other.view content.view session) ∧
      ∀ (dump : Dump) (sink : Sink),
        dump.activate sink other.view = dump.activate sink content.view) := by
  have split := splitLines_of_reended noReturns reended
  have lines : textLines other.bytes = textLines content.bytes :=
    congrArg (List.map decodeBytes) split
  have suppressions : other.suppressions = content.suppressions :=
    congrArg Suppressions.ofLines lines
  have counted : other.lineCount = content.lineCount :=
    congrArg List.length split
  refine ⟨lines, counted, suppressions, ?_, ?_⟩
  · rw [isSkipped, isSkipped, whollySuppressed, whollySuppressed, suppressions,
      counted]
  intro unit
  constructor
  · intro rules session
    apply Work.sameVisit_of_evaluate
    change rules.evaluate other.unit other.suppressions
        (textLines other.bytes) =
      rules.evaluate content.unit content.suppressions (textLines content.bytes)
    rw [unit, suppressions, lines]
  · exact Dump.activate_congr unit suppressions lines

theorem same_of_reended_mixed :
    let content :=
      Content.ofQuery "SELECT * -- sqllint-disable-line\n\nPRINT 1\n"
    let mixed :=
      Content.ofQuery "SELECT * -- sqllint-disable-line\n\r\nPRINT 1\r\n"
    13 ∉ content.bytes ∧
    mixed.bytes = withReturns (33 ≤ ·) content.bytes ∧
    (Cursor.start mixed.bytes).scan.1 = (Cursor.start content.bytes).scan.1 ∧
    (Cursor.start (returnsOnly content.bytes)).scan.1 =
      (Cursor.start content.bytes).scan.1 := by
  intro content mixed
  have noReturns : 13 ∉ content.bytes := by decide +kernel
  have rewritten : mixed.bytes = withReturns (33 ≤ ·) content.bytes := by
    decide +kernel
  have reended : Reended content.bytes mixed.bytes := by
    rw [rewritten]
    exact .withReturns _
  let returned : Content := ⟨"", .literal, returnsOnly content.bytes⟩
  have returnsReended : Reended content.bytes returned.bytes := .returnsOnly
  exact ⟨noReturns, rewritten, (same_of_reended noReturns reended).2.2.1,
    (same_of_reended noReturns returnsReended).2.2.1⟩

end Content

end QueryLint
