import QueryLint.Content.Basic
import QueryLint.Content.Cursor
import QueryLint.Proofs.Sql.Lexing
import QueryLint.Proofs.Suppression.Silencing

/-!
# Directives that reach over a whole unit

A unit is skipped when the ends of ranges that begin on its first line include
its last line.  No range that is scanned in a unit ends after the unit does, so
this test for equality finds the ranges that cover every line.
-/

namespace QueryLint

namespace Instruction

/-- Instructions stand on lines of their unit. -/
theorem line_le_of_mem_ofLines
    {lines : List Text} {event : Nat × Instruction}
    (member : event ∈ ofLines lines) : event.1 ≤ lines.length := by
  simp only [ofLines, List.mem_flatMap, List.mem_map] at member
  obtain ⟨⟨lexed, number⟩, numbered, instruction, -, rfl⟩ := member
  have bound := List.snd_lt_add_of_mem_zipIdx numbered
  rw [LexedLine.lexAll, LexedLine.length_lexFrom] at bound
  omega

/-- A range ends on the last line if its first closing instruction, where it has
one, is on that line. -/
theorem endLine_eq_lastLine_iff
    {selector : Selector} {lastLine : Nat} {later : List (Nat × Instruction)} :
    endLine selector lastLine later = lastLine ↔
      ∀ event ∈ later.find? fun event => event.2.Closes selector,
        event.1 = lastLine := by
  unfold endLine
  cases later.find? fun event => decide (event.2.Closes selector) with
  | none => simp
  | some event => simp

theorem endLine_le
    {lastLine : Nat} {later : List (Nat × Instruction)}
    (bounded : ∀ event ∈ later, event.1 ≤ lastLine) (selector : Selector) :
    endLine selector lastLine later ≤ lastLine := by
  unfold endLine
  cases found : later.find? fun event => decide (event.2.Closes selector) with
  | none => exact le_rfl
  | some event => exact bounded event (List.mem_of_find?_eq_some found)

/-- Only a disable instruction makes ranges: one for each of its selectors, up
to the end that this selector has. -/
theorem range_mem_directives_iff
    {selector : Selector} {range : LineRange} {line lastLine : Nat}
    {instruction : Instruction} {later : List (Nat × Instruction)} :
    .range selector range ∈ directives lastLine later (line, instruction) ↔
      instruction.action = .disable ∧ selector ∈ instruction.selectors ∧
        range.first = line ∧ range.last = endLine selector lastLine later := by
  obtain ⟨action, selectors⟩ := instruction
  cases action with
  | disableLine => simp [directives]
  | enable => simp [directives]
  | disable =>
      constructor
      · intro member
        obtain ⟨other, selected, made⟩ := List.mem_filterMap.mp member
        obtain ⟨whole, built, same⟩ := Option.map_eq_some_iff.mp made
        cases same
        unfold LineRange.of? at built
        split at built
        · cases built
          exact ⟨rfl, selected, rfl, rfl⟩
        · cases built
      · rintro ⟨-, selected, first, last⟩
        refine List.mem_filterMap.mpr ⟨selector, selected, ?_⟩
        rw [← first, ← last, Directive.range?, LineRange.of?,
          dif_pos ⟨range.first_pos, range.ordered⟩]
        rfl

end Instruction

namespace Suppressions

theorem range_mem_ofLines_iff
    {lines : List Text} {selector : Selector} {range : LineRange} :
    .range selector range ∈ (ofLines lines).directives ↔
      ∃ earlier selectors later,
        Instruction.ofLines lines =
          earlier ++ (range.first, ⟨.disable, selectors⟩) :: later ∧
        selector ∈ selectors ∧
        range.last = Instruction.endLine selector lines.length later := by
  rw [(directives_ofLines_perm lines).mem_iff,
    Instruction.mem_allDirectives_iff]
  constructor
  · rintro ⟨earlier, ⟨line, action, selectors⟩, later, split, made⟩
    obtain ⟨rfl, selected, rfl, last⟩ :=
      Instruction.range_mem_directives_iff.mp made
    exact ⟨earlier, selectors, later, split, selected, last⟩
  · rintro ⟨earlier, selectors, later, split, selected, last⟩
    exact ⟨earlier, _, later, split,
      Instruction.range_mem_directives_iff.mpr ⟨rfl, selected, rfl, last⟩⟩

/-- No range reaches past the unit. -/
theorem last_le_of_range_mem
    {lines : List Text} {selector : Selector} {range : LineRange}
    (member : .range selector range ∈ (ofLines lines).directives) :
    range.last ≤ lines.length := by
  obtain ⟨earlier, selectors, later, split, -, last⟩ :=
    range_mem_ofLines_iff.mp member
  rw [last]
  apply Instruction.endLine_le
  intro event inLater
  apply Instruction.line_le_of_mem_ofLines
  rw [split]
  exact List.mem_append_right _ (List.mem_cons_of_mem _ inLater)

theorem coverAll_iff {suppressions : Suppressions} {lastLine : Nat} :
    suppressions.coverAll lastLine = true ↔
      ∃ selector range, .range selector range ∈ suppressions.directives ∧
        range.first = 1 ∧ range.last = lastLine := by
  rw [coverAll, List.contains_iff_mem, endsFrom, List.mem_filterMap]
  constructor
  · rintro ⟨directive, member, ends⟩
    cases directive with
    | line => cases ends
    | range selector range =>
        obtain ⟨first, last⟩ := Option.ite_none_right_eq_some.mp ends
        exact ⟨selector, range, member, first, Option.some.inj last⟩
  · rintro ⟨selector, range, member, first, last⟩
    exact ⟨_, member,
      Option.ite_none_right_eq_some.mpr ⟨first, congrArg some last⟩⟩

end Suppressions

namespace Content

theorem length_lines (content : Content) :
    content.lines.length = content.lineCount :=
  List.length_map _

private theorem coverAll_ofLines_iff (lines : List Text) :
    (Suppressions.ofLines lines).coverAll lines.length = true ↔
      0 < lines.length ∧
        ∃ directive ∈ (Suppressions.ofLines lines).directives,
          directive.isRange = true ∧
          ∀ line, 1 ≤ line → line ≤ lines.length →
            directive.holds line = true := by
  rw [Suppressions.coverAll_iff]
  constructor
  · rintro ⟨selector, range, member, first, last⟩
    have ordered := range.ordered
    refine ⟨by omega, _, member, rfl, ?_⟩
    intro line atLeast atMost
    simp only [Directive.holds, LineRange.holds, Bool.and_eq_true,
      decide_eq_true_eq]
    omega
  · rintro ⟨positive, directive, member, isRange, covers⟩
    -- The first and the last line suffice, as the range ends with the unit at
    -- the latest.
    cases directive with
    | line => cases isRange
    | range selector range =>
        have atFirst := covers 1 le_rfl positive
        have atLast := covers lines.length positive le_rfl
        have bounded := Suppressions.last_le_of_range_mem member
        have begins := range.first_pos
        simp only [Directive.holds, LineRange.holds, Bool.and_eq_true,
          decide_eq_true_eq] at atFirst atLast
        exact ⟨selector, range, member, by omega, by omega⟩

/-- A unit is suppressed as a whole if it has lines and a single scanned range
covers all of them; that is, if its first line disables a selector whose first
later closing instruction is on the last line or missing. -/
theorem whollySuppressed_scan_iff (content : Content) :
    let suppressions := (Cursor.start content.bytes).scan.1
    (content.whollySuppressed suppressions = true ↔
      0 < content.lineCount ∧
        ∃ directive ∈ suppressions.directives, directive.isRange = true ∧
          ∀ line, 1 ≤ line → line ≤ content.lineCount →
            directive.holds line = true) ∧
    (content.whollySuppressed suppressions = true ↔
      ∃ earlier selectors later,
        Instruction.ofLines content.lines =
          earlier ++ (1, ⟨.disable, selectors⟩) :: later ∧
        ∃ selector ∈ selectors,
          ∀ event ∈ later.find? fun event => event.2.Closes selector,
            event.1 = content.lineCount) := by
  intro suppressions
  have scanned : suppressions = Suppressions.ofLines content.lines := rfl
  rw [whollySuppressed, scanned, ← length_lines]
  refine ⟨coverAll_ofLines_iff content.lines, ?_⟩
  rw [Suppressions.coverAll_iff]
  constructor
  · rintro ⟨selector, range, member, first, last⟩
    obtain ⟨earlier, selectors, later, split, selected, ends⟩ :=
      Suppressions.range_mem_ofLines_iff.mp member
    rw [first] at split
    exact ⟨earlier, selectors, later, split, selector, selected,
      Instruction.endLine_eq_lastLine_iff.mp (ends.symm.trans last)⟩
  · rintro ⟨earlier, selectors, later, split, selector, selected, closes⟩
    have ends := Instruction.endLine_eq_lastLine_iff.mpr closes
    have inUnit : (1, ⟨.disable, selectors⟩) ∈
        Instruction.ofLines content.lines := by
      rw [split]
      exact List.mem_append_right _ List.mem_cons_self
    have positive : 1 ≤ content.lines.length :=
      Instruction.line_le_of_mem_ofLines inUnit
    exact ⟨selector, ⟨1, content.lines.length, Nat.one_pos, positive⟩,
      Suppressions.range_mem_ofLines_iff.mpr
        ⟨earlier, selectors, later, split, selected, ends.symm⟩, rfl, rfl⟩

example :
    let content := ofQuery "-- sqllint-disable\nSELECT *\nPRINT 1"
    content.whollySuppressed (Cursor.start content.bytes).scan.1 = true := by
  decide +kernel

/-- A range that is closed too early leaves the unit to be visited. -/
example :
    let content :=
      ofQuery "-- sqllint-disable\nSELECT *\n-- sqllint-enable\nPRINT 1"
    content.whollySuppressed (Cursor.start content.bytes).scan.1 = false := by
  decide +kernel

end Content

end QueryLint
