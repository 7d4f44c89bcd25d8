import QueryLint.Proofs.Rule.Findings
import QueryLint.Proofs.Rule.TrailingBlanks
import QueryLint.Proofs.Sql.Appending
import QueryLint.Proofs.Suppression.Coverage

/-!
# One more comment that silences a rule on its line

A comment at the end of a line that disables one rule on the line adds a single
directive to those of the unit.  All findings stay where they are, and only
those of the rule on the line are no longer reported.
-/

namespace QueryLint

namespace Rule

/-- The end of a line that silences the rule on the line. -/
def silencer (rule : Rule) : Text :=
  (" -- sqllint-disable-line " ++ rule.name).toList

private theorem head_silencer (rule : Rule) : ' ' ∈ rule.silencer.head? := by
  cases rule <;> decide

/-- The silencer is one comment, with one instruction. -/
private theorem lex_silencer (rule : Rule) :
    ∃ blanks body, Text.allBlank blanks = true ∧
      LexedLine.lex .code rule.silencer = (⟨blanks, [body]⟩, .code) ∧
      Instruction.ofComment? body =
        some ⟨.disableLine, [.named rule.name.toList]⟩ := by
  refine ⟨List.replicate rule.silencer.length ' ', rule.silencer.drop 3,
    ?_, ?_, ?_⟩
  · cases rule <;> decide
  · cases rule <;> decide
  · cases rule <;> decide

private theorem sameIgnoringCase_name (rule other : Rule) :
    Text.sameIgnoringCase rule.name.toList other.name.toList =
      (other.name == rule.name) := by
  cases rule <;> cases other <;> decide

end Rule

namespace Instruction

/-- One more comment on a line is one more instruction after those of the
line. -/
private theorem ofLines_of_appended {lines changed : List Text}
    {before after : List LexedLine} {own : LexedLine} {blanks body : Text}
    {instruction : Instruction}
    (lexed : LexedLine.lexAll lines = before ++ own :: after)
    (appended : LexedLine.lexAll changed =
      before ++ (own ++ ⟨blanks, [body]⟩) :: after)
    (instructs : ofComment? body = some instruction) :
    ∃ earlier later, ofLines lines = earlier ++ later ∧
      ofLines changed = earlier ++
        (before.length + 1, instruction) :: later := by
  have both : (own ++ (⟨blanks, [body]⟩ : LexedLine)).comments.filterMap
      ofComment? =
      own.comments.filterMap ofComment? ++ [instruction] := by
    change (own.comments ++ [body]).filterMap ofComment? = _
    rw [List.filterMap_append, List.filterMap_cons_some instructs]
    rfl
  rw [ofLines, ofLines, lexed, appended, List.zipIdx_append, List.zipIdx_append,
    List.zipIdx_cons, List.zipIdx_cons, List.flatMap_append,
    List.flatMap_append, List.flatMap_cons,
    List.flatMap_cons, ← List.append_assoc]
  dsimp only
  rw [both]
  refine ⟨_, _, rfl, ?_⟩
  simp [Nat.add_comm]

end Instruction

namespace Scan

private theorem exists_step (opened : List (Selector × Nat))
    (unmatched : List Nat) (event : Nat × Instruction) :
    ∃ added stillOpened allUnmatched, ∀ completed,
      step ⟨completed, opened, unmatched⟩ event =
        ⟨completed ++ added, stillOpened, allUnmatched⟩ := by
  obtain ⟨line, action, selectors⟩ := event
  cases action with
  | disable =>
      refine ⟨[], opened ++ selectors.map fun selector => (selector, line),
        unmatched, ?_⟩
      intro completed
      rw [List.append_nil]
      rfl
  | disableLine => exact ⟨_, opened, unmatched, fun _ => rfl⟩
  | enable =>
      cases parts : opened.partition fun range => closes selectors range.1 with
      | mk closing kept =>
          refine ⟨closeAt line closing, kept,
            if closing.isEmpty then unmatched ++ [line] else unmatched, ?_⟩
          intro completed
          rw [step, parts]

/-- What a scan still adds does not depend on what it has completed. -/
private theorem exists_foldl_step (opened : List (Selector × Nat))
    (unmatched : List Nat) (events : List (Nat × Instruction)) :
    ∃ added stillOpened allUnmatched, ∀ completed,
      events.foldl step ⟨completed, opened, unmatched⟩ =
        ⟨completed ++ added, stillOpened, allUnmatched⟩ := by
  induction events generalizing opened unmatched with
  | nil =>
      exact ⟨[], opened, unmatched,
        fun completed => by rw [List.append_nil]; rfl⟩
  | cons event events ih =>
      obtain ⟨first, nextOpened, nextUnmatched, stepped⟩ :=
        exists_step opened unmatched event
      obtain ⟨added, stillOpened, allUnmatched, rest⟩ :=
        ih nextOpened nextUnmatched
      refine ⟨first ++ added, stillOpened, allUnmatched, fun completed => ?_⟩
      rw [List.foldl_cons, stepped, rest, List.append_assoc]

end Scan

namespace Suppressions

/-- The other suppressions have one more directive, and all the rest in the same
order. -/
def Gains (directive : Directive) (suppressions other : Suppressions) : Prop :=
  ∃ before after, suppressions.directives = before ++ after ∧
    other.directives = before ++ directive :: after

variable {suppressions other : Suppressions} {line : Nat}

private theorem gains_of_inserted {lines changed : List Text}
    {earlier later : List (Nat × Instruction)} {selector : Selector}
    (events : Instruction.ofLines lines = earlier ++ later)
    (inserted : Instruction.ofLines changed =
      earlier ++ (line, ⟨.disableLine, [selector]⟩) :: later)
    (length : changed.length = lines.length) :
    Gains (.line selector line) (ofLines lines) (ofLines changed) := by
  cases reached : earlier.foldl Scan.step Scan.start with
  | mk completed opened unmatched =>
      obtain ⟨added, stillOpened, allUnmatched, rest⟩ :=
        Scan.exists_foldl_step opened unmatched later
      refine ⟨completed, added ++ Scan.closeAt lines.length stillOpened, ?_, ?_⟩
      · rw [ofLines, Scan.ofLines, events, List.foldl_append, reached, rest]
        exact List.append_assoc _ _ _
      · rw [ofLines, Scan.ofLines, inserted, List.foldl_append, reached,
          List.foldl_cons, Scan.step, rest, Scan.finish, length]
        simp

/-- A directive about one rule and one line silences that rule there and nothing
else. -/
theorem Gains.silences {rule : Rule}
    (gains : Gains (.line (.named rule.name.toList) line) suppressions other)
    (asked : Rule) (number : Nat) :
    other.silences asked.name number =
      (suppressions.silences asked.name number ||
        (asked.name == rule.name && number == line)) := by
  obtain ⟨before, after, directives, gained⟩ := gains
  have alone : (Directive.line (.named rule.name.toList) line).silences
      asked.name number =
      (asked.name == rule.name && number == line) := by
    rw [← Rule.sameIgnoringCase_name, Bool.and_comm, BEq.comm]
    rfl
  rw [Suppressions.silences, Suppressions.silences, directives, gained,
    List.any_append, List.any_append, List.any_cons, alone, Bool.or_left_comm,
    Bool.or_comm]

theorem Gains.coverAll {selector : Selector}
    (gains : Gains (.line selector line) suppressions other) (lineCount : Nat) :
    other.coverAll lineCount = suppressions.coverAll lineCount := by
  obtain ⟨before, after, directives, gained⟩ := gains
  rw [Suppressions.coverAll, Suppressions.coverAll, endsFrom, endsFrom,
    directives, gained, List.filterMap_append, List.filterMap_append,
    List.filterMap_cons_none rfl]

end Suppressions

namespace RuleSet

private theorem check_codeOnly_of_appended {lines changed : List Text}
    {before after : List LexedLine} {own : LexedLine} {blanks body : Text}
    (lexed : LexedLine.lexAll lines = before ++ own :: after)
    (appended : LexedLine.lexAll changed =
      before ++ (own ++ ⟨blanks, [body]⟩) :: after)
    (all : Text.allBlank blanks = true) (rule : Rule) :
    rule.check (codeOnly changed) = rule.check (codeOnly lines) := by
  have trimmed : (codeOnly changed).map Text.trimEnd =
      (codeOnly lines).map Text.trimEnd := by
    have same : Text.trimEnd (own ++ (⟨blanks, [body]⟩ : LexedLine)).code =
        Text.trimEnd own.code := Text.trimEnd_append_of_allBlank all own.code
    simp only [codeOnly, lexed, appended, List.map_append, List.map_cons, same]
  rw [← Rule.check_map_trimEnd, trimmed, Rule.check_map_trimEnd]

private theorem violations_of_gains (rules : RuleSet) (unit : String)
    {lines changed : List Text} {suppressions other : Suppressions}
    {rule : Rule} {line : Nat}
    (found : ∀ asked : Rule,
      asked.check (codeOnly changed) = asked.check (codeOnly lines))
    (gains : Suppressions.Gains
      (.line (.named rule.name.toList) line) suppressions other) :
    Verdict.violations (rules.evaluate unit other changed) =
      (Verdict.violations (rules.evaluate unit suppressions lines)).filter
        fun violation =>
          !(violation.rule == rule.name && violation.line == line) := by
  rw [violations_evaluate, violations_evaluate, List.filter_flatMap]
  apply List.flatMap_congr
  intro asked _
  by_cases off : rules.severity asked = .off
  · rw [if_pos off, if_pos off]
    rfl
  · rw [if_neg off, if_neg off, found, List.filter_map, List.filter_filter]
    congr 1
    apply List.filter_congr
    intro finding _
    rw [gains.silences, Bool.not_or, Bool.and_comm]
    rfl

/-- A comment that silences a rule on its line can be added to every line that
ends in code without a line comment.  The unit gains the directive and no other,
it is skipped if and only if it was skipped before, and its violations are the
same, less those of the rule on the line. -/
theorem violations_with_silencer (rules : RuleSet) (unit : String)
    (rule : Rule) {earlier later : List Text} {line : Text}
    (ends : (LexedLine.lex (LexedLine.regionFrom .code earlier) line).2 = .code)
    (uncommented : LexedLine.Uncommented
      (LexedLine.regionFrom .code earlier) line) :
    let lines := earlier ++ line :: later
    let changed := earlier ++ (line ++ rule.silencer) :: later
    let number := earlier.length + 1
    Suppressions.Gains (.line (.named rule.name.toList) number)
      (Suppressions.ofLines lines) (Suppressions.ofLines changed) ∧
    (∀ content other : Content, content.lines = lines → other.lines = changed →
      other.whollySuppressed (Suppressions.ofLines changed) =
        content.whollySuppressed (Suppressions.ofLines lines)) ∧
    Verdict.violations
        (rules.evaluate unit (Suppressions.ofLines changed) changed) =
      (Verdict.violations
        (rules.evaluate unit (Suppressions.ofLines lines) lines)).filter
        fun violation =>
          !(violation.rule == rule.name && violation.line == number) := by
  intro lines changed number
  -- The two units differ in one comment, and so in one instruction.
  obtain ⟨blanks, body, all, lexes, instructs⟩ := rule.lex_silencer
  obtain ⟨before, own, after, counted, lexed, appended⟩ :=
    LexedLine.lexAll_append_line ends uncommented rule.head_silencer lexes
  obtain ⟨firstEvents, lastEvents, events, moreEvents⟩ :=
    Instruction.ofLines_of_appended lexed appended instructs
  rw [counted] at moreEvents
  have length : changed.length = lines.length := by
    rw [List.length_append, List.length_append]
    rfl
  have gains := Suppressions.gains_of_inserted events moreEvents length
  refine ⟨gains, ?_, ?_⟩
  · intro content other contentLines otherLines
    rw [Content.whollySuppressed,
      Content.whollySuppressed, ← Content.length_lines, ← Content.length_lines,
      contentLines, otherLines, length]
    exact gains.coverAll lines.length
  · exact rules.violations_of_gains unit
      (check_codeOnly_of_appended lexed appended all) gains

theorem violations_with_silencer_after_comment :
    let earlier := ["/* a".toList]
    let line := "b */ SELECT * FROM t WHERE c = '--'".toList
    let changed := earlier ++ [line ++ Rule.selectStar.silencer]
    let query := "/* a\nb */ SELECT * FROM t WHERE c = '--'"
    (LexedLine.lex (LexedLine.regionFrom .code earlier) line).2 = .code ∧
    LexedLine.Uncommented (LexedLine.regionFrom .code earlier) line ∧
    (Content.ofQuery (query ++
      String.ofList Rule.selectStar.silencer)).whollySuppressed
        (Suppressions.ofLines changed) =
      (Content.ofQuery query).whollySuppressed
          (Suppressions.ofLines (earlier ++ [line])) ∧
    Verdict.violations
        (default.evaluate query (Suppressions.ofLines changed) changed) =
      [⟨query, 2, 31, .warning, "semicolon-termination",
        "Expected semicolon at end of statement"⟩] := by
  intro earlier line changed query
  have ends : (LexedLine.lex (LexedLine.regionFrom .code earlier) line).2 =
      .code := by
    decide
  have uncommented : LexedLine.Uncommented
      (LexedLine.regionFrom .code earlier) line := by
    decide +kernel
  obtain ⟨-, covered, fewer⟩ :=
    violations_with_silencer default query .selectStar ends uncommented
  refine ⟨ends, uncommented, covered _ _ ?_ ?_, fewer.trans ?_⟩
  · decide +kernel
  · decide +kernel
  · decide +kernel

end RuleSet

end QueryLint
