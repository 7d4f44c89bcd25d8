import QueryLint.Proofs.Rule.Findings
import QueryLint.Proofs.Suppression.Coverage

/-!
# The first lines of a unit

What follows the first lines of a unit changes nothing about them.  A range that
they leave open may end later or be closed on a later line, yet it reaches at
least to the last of them either way, so that the same rules are silenced on
each.
-/

namespace QueryLint

namespace LexedLine

theorem lexFrom_take (region : Region) (lines : List Text) (count : Nat) :
    lexFrom region (lines.take count) = (lexFrom region lines).take count := by
  induction lines generalizing region count with
  | nil => simp [lexFrom]
  | cons line rest ih =>
      cases count with
      | zero => rfl
      | succ count => simp [lexFrom, ih]

theorem lexAll_take (lines : List Text) (count : Nat) :
    lexAll (lines.take count) = (lexAll lines).take count :=
  lexFrom_take .code lines count

end LexedLine

theorem codeOnly_take (lines : List Text) (count : Nat) :
    codeOnly (lines.take count) = (codeOnly lines).take count := by
  rw [codeOnly, codeOnly, LexedLine.lexAll_take, List.map_take]

/-- The first lines are numbered as in the unit, and the numbers of all others
are greater. -/
private theorem exists_zipIdx_take_append {α : Type} (items : List α)
    (count : Nat) :
    ∃ later, items.zipIdx 1 = (items.take count).zipIdx 1 ++ later ∧
      ∀ numbered ∈ later, count < numbered.2 := by
  refine ⟨(items.drop count).zipIdx (1 + (items.take count).length), ?_, ?_⟩
  · rw [← List.zipIdx_append, List.take_append_drop]
  · intro numbered member
    have atLeast := List.le_snd_of_mem_zipIdx member
    have positive := List.length_pos_of_mem (List.fst_mem_of_mem_zipIdx member)
    rw [List.length_drop] at positive
    rw [List.length_take] at atLeast
    omega

namespace Instruction

/-- The instructions of the first lines come first, and all others are on later
lines. -/
theorem exists_ofLines_take_append (lines : List Text) (count : Nat) :
    ∃ later, ofLines lines = ofLines (lines.take count) ++ later ∧
      ∀ event ∈ later, count < event.1 := by
  obtain ⟨rest, numbers, beyond⟩ :=
    exists_zipIdx_take_append (LexedLine.lexAll lines) count
  rw [ofLines, ofLines, LexedLine.lexAll_take, numbers, List.flatMap_append]
  refine ⟨_, rfl, ?_⟩
  intro event member
  obtain ⟨numbered, inRest, inLine⟩ := List.mem_flatMap.mp member
  obtain ⟨instruction, -, rfl⟩ := List.mem_map.mp inLine
  exact beyond numbered inRest

variable {line count lastLine : Nat}

/-- Whether a range reaches a line is decided by the instructions up to it. -/
theorem le_endLine_append_iff {later : List (Nat × Instruction)}
    (within : line ≤ count) (bounded : count ≤ lastLine)
    (beyond : ∀ event ∈ later, count < event.1)
    (selector : Selector) (earlier : List (Nat × Instruction)) :
    line ≤ endLine selector lastLine (earlier ++ later) ↔
      line ≤ endLine selector count earlier := by
  unfold endLine
  rw [List.find?_append]
  cases earlier.find? fun event => event.2.Closes selector with
  | some event => rfl
  | none =>
      cases closing : later.find? fun event => event.2.Closes selector with
      | none => exact iff_of_true (within.trans bounded) within
      | some event =>
          have after := beyond event (List.mem_of_find?_eq_some closing)
          exact iff_of_true (within.trans after.le) within

theorem any_directives_append {later : List (Nat × Instruction)}
    (within : line ≤ count) (bounded : count ≤ lastLine)
    (beyond : ∀ event ∈ later, count < event.1)
    {event : Nat × Instruction} (positive : 0 < event.1)
    (earlier : List (Nat × Instruction)) (rule : String) :
    (directives lastLine (earlier ++ later) event).any (·.silences rule line) =
      (directives count earlier event).any (·.silences rule line) := by
  obtain ⟨first, action, selectors⟩ := event
  apply Bool.eq_iff_iff.mpr
  rw [List.any_eq_true, List.any_eq_true, exists_mem_directives_iff positive,
    exists_mem_directives_iff positive]
  simp only [le_endLine_append_iff within bounded beyond]

/-- Instructions that are all on later lines silence nothing on a line. -/
theorem any_allDirectives_of_lt {events : List (Nat × Instruction)}
    (beyond : ∀ event ∈ events, line < event.1) (lastLine : Nat)
    (rule : String) :
    (allDirectives lastLine events).any (·.silences rule line) = false := by
  apply Bool.eq_false_iff.mpr
  intro silenced
  obtain ⟨directive, member, silences⟩ := List.any_eq_true.mp silenced
  obtain ⟨earlier, ⟨first, action, selectors⟩, later, rfl, made⟩ :=
    mem_allDirectives_iff.mp member
  have after : line < first :=
    beyond _ (List.mem_append_right _ List.mem_cons_self)
  have reaches := (exists_mem_directives_iff (Nat.zero_lt_of_lt after)).mp
    ⟨directive, made, silences⟩
  rcases reaches with ⟨-, same, -⟩ | ⟨-, atLeast, -⟩
  · omega
  · omega

theorem any_allDirectives_append {later : List (Nat × Instruction)}
    (within : line ≤ count) (bounded : count ≤ lastLine)
    (beyond : ∀ event ∈ later, count < event.1)
    {earlier : List (Nat × Instruction)}
    (positive : ∀ event ∈ earlier, 0 < event.1) (rule : String) :
    (allDirectives lastLine (earlier ++ later)).any (·.silences rule line) =
      (allDirectives count earlier).any (·.silences rule line) := by
  induction earlier with
  | nil =>
      apply any_allDirectives_of_lt
      intro event member
      exact within.trans_lt (beyond event member)
  | cons event earlier ih =>
      obtain ⟨first, others⟩ := List.forall_mem_cons.mp positive
      rw [List.cons_append, allDirectives, allDirectives, List.any_append,
        List.any_append, ih others,
        any_directives_append within bounded beyond first]

end Instruction

namespace Suppressions

theorem silences_ofLines_eq_any (lines : List Text) (rule : String)
    (line : Nat) :
    (ofLines lines).silences rule line =
      (Instruction.allDirectives lines.length (Instruction.ofLines lines)).any
        (·.silences rule line) :=
  (directives_ofLines_perm lines).any_eq

private theorem silences_take {lines : List Text} {line count : Nat}
    (within : line ≤ count) (rule : String) :
    (ofLines (lines.take count)).silences rule line =
      (ofLines lines).silences rule line := by
  by_cases short : lines.length ≤ count
  · rw [List.take_of_length_le short]
  · obtain ⟨later, split, beyond⟩ :=
      Instruction.exists_ofLines_take_append lines count
    have bounded : count ≤ lines.length := by omega
    rw [silences_ofLines_eq_any, silences_ofLines_eq_any, split,
      List.length_take_of_le bounded]
    symm
    apply Instruction.any_allDirectives_append within bounded beyond
    intro event member
    exact Instruction.line_pos_of_mem_ofLines member

end Suppressions

private theorem onEachLine_take (message : String) (columns : Text → List Nat)
    (lines : List Text) (count : Nat) :
    Finding.onEachLine message columns (lines.take count) =
      (Finding.onEachLine message columns lines).filter fun finding =>
        finding.line ≤ count := by
  obtain ⟨rest, numbers, beyond⟩ := exists_zipIdx_take_append lines count
  have whole : Finding.onEachLine message columns lines =
      Finding.onEachLine message columns (lines.take count) ++
        rest.flatMap fun numbered =>
          (columns numbered.1).map fun column =>
            ⟨numbered.2, column, message⟩ := by
    rw [Finding.onEachLine, numbers, List.flatMap_append]
    rfl
  rw [whole, List.filter_append, List.filter_eq_self.mpr,
    List.filter_eq_nil_iff.mpr, List.append_nil]
  · intro finding member
    obtain ⟨numbered, inRest, inLine⟩ := List.mem_flatMap.mp member
    obtain ⟨column, -, rfl⟩ := List.mem_map.mp inLine
    have after := beyond numbered inRest
    simpa using after
  · intro finding member
    have bound := Rule.line_of_mem_onEachLine member
    rw [List.length_take] at bound
    simp only [decide_eq_true_eq]
    omega

/-- Nothing after the first lines of a unit changes what they mean: they are
lexed as they are alone, the same rules are silenced on each of them, and the
rules about single lines find there what they find in them alone. -/
theorem first_lines_stand (lines : List Text) (count : Nat) :
    LexedLine.lexAll (lines.take count) = (LexedLine.lexAll lines).take count ∧
    (∀ (rule : String) (line : Nat), line ≤ count →
      (Suppressions.ofLines (lines.take count)).silences rule line =
        (Suppressions.ofLines lines).silences rule line) ∧
    ∀ rule ∈ [Rule.selectStar, Rule.printStatement],
      rule.check (codeOnly (lines.take count)) =
        (rule.check (codeOnly lines)).filter fun finding =>
          finding.line ≤ count := by
  refine ⟨LexedLine.lexAll_take lines count, ?_, ?_⟩
  · intro rule line within
    exact Suppressions.silences_take within rule
  · intro rule member
    rw [codeOnly_take]
    rcases List.mem_pair.mp member with rfl | rfl
    · exact onEachLine_take _ _ _ _
    · exact onEachLine_take _ _ _ _

/-- The first two lines leave a range and a comment open.  With the other two
the comment ends, the range is closed, and one more star is found. -/
theorem first_lines_stand_open_range :
    let lines :=
      ["-- sqllint-disable select-star".toList, "SELECT * /* a".toList,
        "b */ SELECT *".toList, "-- sqllint-enable".toList]
    (Suppressions.ofLines (lines.take 2)).directives ≠
      (Suppressions.ofLines lines).directives ∧
    (2 ≤ 2 ∧ (Suppressions.ofLines lines).silences "select-star" 2 = true) ∧
    Rule.selectStar ∈ [Rule.selectStar, Rule.printStatement] ∧
    ((Rule.selectStar.check (codeOnly lines)).filter fun finding =>
      finding.line ≤ 2) =
      [⟨2, 8, "Expected column names in SELECT"⟩] := by
  intro lines
  obtain ⟨-, silenced, found⟩ := first_lines_stand lines 2
  have member : Rule.selectStar ∈ [Rule.selectStar, Rule.printStatement] := by
    decide
  refine ⟨by decide +kernel, ⟨le_rfl, ?_⟩, member, ?_⟩
  · rw [← silenced "select-star" 2 le_rfl]
    decide +kernel
  · rw [← found _ member]
    decide +kernel

end QueryLint
