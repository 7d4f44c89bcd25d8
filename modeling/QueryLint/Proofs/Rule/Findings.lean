import Mathlib.Data.List.Basic
import QueryLint.Proofs.Sql.Lexing
import QueryLint.Rule.RuleSet

/-!
# Where findings lie and what becomes of them

Whatever a rule finds is on a line of the text that it checks, and every finding
that is reported has got past the directives of its line.
-/

namespace QueryLint

theorem length_codeOnly (lines : List Text) :
    (codeOnly lines).length = lines.length := by
  rw [codeOnly, List.length_map, LexedLine.lexAll, LexedLine.length_lexFrom]

namespace Finding

/-- The finding is on an earlier line, or further ahead on the same one. -/
def Precedes (earlier later : Finding) : Prop :=
  earlier.line < later.line ∨
    earlier.line = later.line ∧ earlier.column < later.column

theorem Precedes.ne {earlier later : Finding}
    (precedes : earlier.Precedes later) :
    earlier ≠ later := by
  intro same
  rw [same] at precedes
  rcases precedes with above | ⟨-, ahead⟩
  · exact Nat.lt_irrefl _ above
  · exact Nat.lt_irrefl _ ahead

theorem Precedes.trans {first second third : Finding}
    (before : first.Precedes second) (after : second.Precedes third) :
    first.Precedes third := by
  unfold Precedes at before after ⊢
  omega

variable {message : String} {columns : Text → List Nat}

theorem mem_onEachLine_iff {lines : List Text} {finding : Finding} :
    finding ∈ onEachLine message columns lines ↔
      ∃ index line column, lines[index]? = some line ∧ column ∈ columns line ∧
        finding = ⟨index + 1, column, message⟩ := by
  constructor
  · intro member
    obtain ⟨⟨line, number⟩, numbered, inLine⟩ := List.mem_flatMap.mp member
    obtain ⟨column, found, rfl⟩ := List.mem_map.mp inLine
    obtain ⟨atLeast, here⟩ :=
      List.mk_mem_zipIdx_iff_le_and_getElem?_sub.mp numbered
    exact ⟨number - 1, line, column, here,
      found, by rw [Nat.sub_add_cancel atLeast]⟩
  · intro placed
    obtain ⟨index, line, column, here, found, rfl⟩ := placed
    have numbered : (line, index + 1) ∈ lines.zipIdx 1 :=
      List.mk_mem_zipIdx_iff_le_and_getElem?_sub.mpr
        ⟨Nat.le_add_left 1 index, here⟩
    exact List.mem_flatMap.mpr
      ⟨_, numbered, List.mem_map.mpr ⟨column, found, rfl⟩⟩

/-- Findings on each line are in order if the columns of every line are. -/
theorem pairwise_onEachLine
    (ascending : ∀ line, (columns line).Pairwise (· < ·)) (lines : List Text) :
    (onEachLine message columns lines).Pairwise Precedes := by
  rw [onEachLine, List.pairwise_flatMap]
  constructor
  · intro numbered _
    apply List.pairwise_map.mpr
    apply (ascending numbered.1).imp
    intro earlier later before
    exact Or.inr ⟨rfl, before⟩
  · apply (pairwise_zipIdx _ _).imp
    intro earlier later ordered first firstMember second secondMember
    obtain ⟨-, -, rfl⟩ := List.mem_map.mp firstMember
    obtain ⟨-, -, rfl⟩ := List.mem_map.mp secondMember
    exact Or.inl ordered

end Finding

namespace Rule

theorem name_injective : Function.Injective name := by
  intro first second
  cases first <;> cases second <;> decide

private theorem line_of_mem_zipIdx {lines : List Text} {line : Text}
    {number : Nat} (member : (line, number) ∈ lines.zipIdx 1) :
    1 ≤ number ∧ number ≤ lines.length := by
  have atLeast := List.le_snd_of_mem_zipIdx member
  have atMost := List.snd_lt_add_of_mem_zipIdx member
  omega

theorem line_of_mem_onEachLine {message : String} {columns : Text → List Nat}
    {lines : List Text} {finding : Finding}
    (member : finding ∈ Finding.onEachLine message columns lines) :
    1 ≤ finding.line ∧ finding.line ≤ lines.length := by
  obtain ⟨⟨line, number⟩, numbered, inLine⟩ := List.mem_flatMap.mp member
  obtain ⟨column, -, rfl⟩ := List.mem_map.mp inLine
  exact line_of_mem_zipIdx numbered

theorem onEachLine_map {message : String} {columns : Text → List Nat}
    {change : Text → Text} (same : ∀ line, columns (change line) = columns line)
    (lines : List Text) :
    Finding.onEachLine message columns (lines.map change) =
      Finding.onEachLine message columns lines := by
  rw [Finding.onEachLine, Finding.onEachLine, List.zipIdx_map, List.flatMap_map]
  simp [same]

private theorem line_of_mem_semicolons {lines : List Text} {finding : Finding}
    (member : finding ∈ SemicolonTermination.check lines) :
    1 ≤ finding.line ∧ finding.line ≤ lines.length := by
  unfold SemicolonTermination.check at member
  cases last : SemicolonTermination.lastStatement? lines with
  | none => simp [last] at member
  | some numbered =>
      obtain ⟨line, number⟩ := numbered
      have inUnit : (line, number) ∈ lines.zipIdx 1 :=
        List.mem_reverse.mp (List.mem_of_find?_eq_some last)
      have same : finding.line = number := by
        simp only [last] at member
        split at member
        · cases member
        · exact congrArg Finding.line (List.mem_singleton.mp member)
      rw [same]
      exact line_of_mem_zipIdx inUnit

/-- Whatever a rule finds is on one of the lines that it checks. -/
theorem line_of_mem_check {rule : Rule} {lines : List Text} {finding : Finding}
    (member : finding ∈ rule.check lines) :
    1 ≤ finding.line ∧ finding.line ≤ lines.length := by
  cases rule with
  | selectStar => exact line_of_mem_onEachLine member
  | semicolonTermination => exact line_of_mem_semicolons member
  | printStatement => exact line_of_mem_onEachLine member

end Rule

namespace RuleSet

/-- The violation that a finding of the rule amounts to. -/
def violation (rules : RuleSet) (unit : String) (rule : Rule)
    (finding : Finding) :
    Violation :=
  ⟨unit, finding.line, finding.column, rules.severity rule, rule.name,
    finding.message⟩

private theorem violations_verdictsOf (rules : RuleSet) (unit : String)
    (suppressions : Suppressions) (code : List Text) (rule : Rule) :
    Verdict.violations (rules.verdictsOf unit suppressions code rule) =
      if rules.severity rule = .off then []
      else ((rule.check code).filter fun finding =>
        !suppressions.silences rule.name finding.line).map
          (rules.violation unit rule) := by
  unfold verdictsOf
  split
  · rfl
  · generalize rule.check code = findings
    induction findings with
    | nil => rfl
    | cons finding others ih =>
        unfold Verdict.violations at ih ⊢
        cases silenced : suppressions.silences rule.name finding.line with
        | true => simp [verdict, silenced, ih]
        | false => simp [verdict, violation, silenced, ih]

/-- Violations are the findings that no directive silences, rule by rule. -/
theorem violations_evaluate (rules : RuleSet) (unit : String)
    (suppressions : Suppressions) (lines : List Text) :
    Verdict.violations (rules.evaluate unit suppressions lines) =
      Rule.all.flatMap fun rule =>
        if rules.severity rule = .off then []
        else ((rule.check (codeOnly lines)).filter fun finding =>
          !suppressions.silences rule.name finding.line).map
            (rules.violation unit rule) := by
  simp only [← violations_verdictsOf, Verdict.violations, evaluate,
    List.filterMap_flatMap]

theorem exists_finding_of_mem_violations {rules : RuleSet} {unit : String}
    {suppressions : Suppressions} {lines : List Text} {violation : Violation}
    (member : violation ∈ Verdict.violations
      (rules.evaluate unit suppressions lines)) :
    ∃ rule finding, finding ∈ rule.check (codeOnly lines) ∧
      suppressions.silences rule.name finding.line = false ∧
      violation = rules.violation unit rule finding := by
  rw [violations_evaluate, List.mem_flatMap] at member
  obtain ⟨rule, -, ofRule⟩ := member
  split at ofRule
  · cases ofRule
  · obtain ⟨finding, kept, rfl⟩ := List.mem_map.mp ofRule
    obtain ⟨found, passed⟩ := List.mem_filter.mp kept
    exact ⟨rule, finding, found, by simpa using passed, rfl⟩

end RuleSet

end QueryLint
