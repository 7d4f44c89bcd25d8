import QueryLint.Content.Cursor
import QueryLint.Proofs.Content.Lines
import QueryLint.Proofs.Rule.LetterCase
import QueryLint.Proofs.Run.Skipping

/-!
# Contents that differ in letter case

Contents that differ in the case of letters alone have the same lines once these
are lowered.  Directives and verdicts are those of the lowered lines, so that
linting does not tell such contents apart.
-/

namespace QueryLint

/-- Letters `A` to `Z` as letters `a` to `z`, in bytes. -/
def lowerByte (byte : UInt8) : UInt8 :=
  if 65 ≤ byte ∧ byte ≤ 90 then byte + 32 else byte

private theorem of_bytes {property : UInt8 → Prop}
    (all : ∀ index ∈ List.range 256, property (UInt8.ofNat index))
    (byte : UInt8) :
    property byte := by
  have counted := all byte.toNat (List.mem_range.mpr byte.toNat_lt)
  rwa [UInt8.ofNat_toNat] at counted

private theorem ofNat_lowerByte (byte : UInt8) :
    Char.ofNat (lowerByte byte).toNat = (Char.ofNat byte.toNat).toLower := by
  revert byte
  apply of_bytes
  decide +kernel

private theorem lowerByte_eq_end_iff (byte : UInt8) :
    (lowerByte byte = 13 ↔ byte = 13) ∧ (lowerByte byte = 10 ↔ byte = 10) := by
  revert byte
  apply of_bytes
  decide +kernel

theorem decodeBytes_lowerByte (bytes : List UInt8) :
    decodeBytes (bytes.map lowerByte) = Text.lower (decodeBytes bytes) := by
  simp [decodeBytes, Text.lower, ofNat_lowerByte]

private theorem keeps_lowerByte :
    LineMarks.ofBytes.Keeps LineMarks.ofBytes lowerByte :=
  ⟨fun byte => (lowerByte_eq_end_iff byte).1,
    fun byte => (lowerByte_eq_end_iff byte).2⟩

theorem splitLines_lowerByte (bytes : List UInt8) :
    splitLines (bytes.map lowerByte) =
      (splitLines bytes).map (List.map lowerByte) :=
  splitLines_map keeps_lowerByte (splits_splitLines bytes)

theorem textLines_lowerByte (bytes : List UInt8) :
    textLines (bytes.map lowerByte) = (textLines bytes).map Text.lower := by
  rw [textLines, splitLines_lowerByte, textLines, List.map_map, List.map_map]
  exact congrArg (splitLines bytes).map (funext decodeBytes_lowerByte)

namespace Content

/-- Letters in one case or the other do not move an end of a line. -/
theorem lower_lines_of_lower_text {content other : Content}
    (letters : Text.lower other.text = Text.lower content.text) :
    other.lines.map Text.lower = content.lines.map Text.lower := by
  have bytes : other.bytes.map lowerByte = content.bytes.map lowerByte := by
    apply decodeBytes_injective
    rw [decodeBytes_lowerByte, decodeBytes_lowerByte]
    exact letters
  rw [lines, lines, ← textLines_lowerByte, ← textLines_lowerByte, bytes]

/-- Directives, the decision to skip and what the visitor reports are the same
in whatever case the letters of the content are. -/
theorem same_of_lower_text {content other : Content}
    (letters : Text.lower other.text = Text.lower content.text) :
    (Cursor.start other.bytes).scan.1 = (Cursor.start content.bytes).scan.1 ∧
    other.isSkipped = content.isSkipped ∧
    (other.unit = content.unit → ∀ (rules : RuleSet) (session : Session),
      Work.SameVisit rules.visitor other.view content.view session) := by
  have lowered := lower_lines_of_lower_text letters
  have suppressions : other.suppressions = content.suppressions := by
    calc
      other.suppressions = Suppressions.ofLines (other.lines.map Text.lower) :=
        (Suppressions.ofLines_lower _).symm
      _ = Suppressions.ofLines (content.lines.map Text.lower) := by rw [lowered]
      _ = content.suppressions := Suppressions.ofLines_lower _
  have counted : other.lineCount = content.lineCount := by
    simpa [length_lines] using congrArg List.length lowered
  refine ⟨suppressions, ?_, ?_⟩
  · rw [isSkipped, isSkipped, whollySuppressed, whollySuppressed, suppressions,
      counted]
  intro unit rules session
  apply Work.sameVisit_of_evaluate
  change rules.evaluate other.unit other.suppressions other.lines =
    rules.evaluate content.unit content.suppressions content.lines
  rw [unit, suppressions, ← RuleSet.evaluate_lower, lowered,
    RuleSet.evaluate_lower]

theorem same_of_lower_text_shouted :
    let content := Content.ofQuery "select * -- sqllint-disable-line select-star
Print 1"
    let shouted := Content.ofQuery "SELECT * -- SQLLINT-DISABLE-LINE Select-Star
pRINT 1"
    Text.lower shouted.text = Text.lower content.text ∧
    (Cursor.start shouted.bytes).scan.1 = (Cursor.start content.bytes).scan.1 ∧
    shouted.isSkipped = content.isSkipped := by
  intro content shouted
  have letters : Text.lower shouted.text = Text.lower content.text := by
    decide +kernel
  obtain ⟨scanned, skipped, -⟩ := same_of_lower_text letters
  exact ⟨letters, scanned, skipped⟩

end Content

end QueryLint
