import Mathlib.Data.List.Basic
import QueryLint.Suppression.Scan

/-!
# Which lines the directives of a unit silence

Every selector of a disable or disable-line instruction becomes a directive of
its own.  A range that a disable instruction opens ends on the line of the first
later enable instruction about it, so that the directives of a unit can be read
off its instructions without following the ranges that are open in between.
-/

namespace QueryLint

namespace Instruction

/-- The instruction closes ranges with the selector: it is an enable
instruction about every rule or about the selector itself. -/
def Closes (instruction : Instruction) (selector : Selector) : Prop :=
  instruction.action = .enable ∧
    (.every ∈ instruction.selectors ∨ selector ∈ instruction.selectors)

instance (instruction : Instruction) (selector : Selector) :
    Decidable (instruction.Closes selector) :=
  inferInstanceAs (Decidable (_ ∧ _))

/-- The line on which a range with the selector ends, given the instructions
after its opening and the last line of the unit. -/
def endLine (selector : Selector) (lastLine : Nat)
    (later : List (Nat × Instruction)) : Nat :=
  match later.find? fun event => event.2.Closes selector with
  | some (line, _) => line
  | none => lastLine

/-- The directives of one instruction, given the instructions after it. -/
def directives (lastLine : Nat) (later : List (Nat × Instruction)) :
    Nat × Instruction → List Directive
  | (line, ⟨.disableLine, selectors⟩) =>
      selectors.map fun selector => Directive.line selector line
  | (line, ⟨.disable, selectors⟩) =>
      selectors.filterMap fun selector =>
        Directive.range? selector line (endLine selector lastLine later)
  | (_, ⟨.enable, _⟩) => []

/-- The directives of instructions in the order of the instructions. -/
def allDirectives (lastLine : Nat) : List (Nat × Instruction) → List Directive
  | [] => []
  | event :: later =>
      directives lastLine later event ++ allDirectives lastLine later

theorem endLine_cons_of_closes
    {selector : Selector} {instruction : Instruction}
    (closes : instruction.Closes selector)
    (lastLine line : Nat) (later : List (Nat × Instruction)) :
    endLine selector lastLine ((line, instruction) :: later) = line := by
  simp [endLine, closes]

theorem endLine_cons_of_not_closes
    {selector : Selector} {instruction : Instruction}
    (keeps : ¬ instruction.Closes selector)
    (lastLine line : Nat) (later : List (Nat × Instruction)) :
    endLine selector lastLine ((line, instruction) :: later) =
      endLine selector lastLine later := by
  simp [endLine, keeps]

theorem not_closes_of_action_ne
    {action : Action} (other : action ≠ .enable)
    {selectors : List Selector} (selector : Selector) :
    ¬ Closes ⟨action, selectors⟩ selector :=
  fun closes => other closes.1

/-- An enable instruction that only names rules closes no range of every
rule. -/
theorem not_closes_every
    {selectors : List Selector} (named : .every ∉ selectors) :
    ¬ Closes ⟨.enable, selectors⟩ .every := by
  rintro ⟨-, member | member⟩
  · exact named member
  · exact named member

/-- A directive comes from an instruction and the instructions after it. -/
theorem mem_allDirectives_iff
    {directive : Directive} {lastLine : Nat}
    {events : List (Nat × Instruction)} :
    directive ∈ allDirectives lastLine events ↔
      ∃ earlier event later, events = earlier ++ event :: later ∧
        directive ∈ directives lastLine later event := by
  induction events with
  | nil => simp [allDirectives]
  | cons head tail ih =>
      rw [allDirectives, List.mem_append, ih]
      constructor
      · rintro (atHead | ⟨earlier, event, later, rfl, member⟩)
        · exact ⟨[], head, tail, rfl, atHead⟩
        · exact ⟨head :: earlier, event, later, rfl, member⟩
      · rintro ⟨earlier, event, later, split, member⟩
        cases earlier with
        | nil =>
            obtain ⟨rfl, rfl⟩ := List.cons.inj split
            exact Or.inl member
        | cons first earlier =>
            obtain ⟨rfl, rfl⟩ := List.cons.inj split
            exact Or.inr ⟨earlier, event, later, rfl, member⟩

/-- Lines are numbered from one. -/
theorem line_pos_of_mem_ofLines
    {lines : List Text} {event : Nat × Instruction}
    (member : event ∈ ofLines lines) : 0 < event.1 := by
  simp only [ofLines, List.mem_flatMap, List.mem_map] at member
  obtain ⟨⟨lexed, number⟩, numbered, instruction, -, rfl⟩ := member
  have bound := List.le_snd_of_mem_zipIdx numbered
  exact bound

end Instruction

namespace Scan

private theorem closes_iff (selectors : List Selector) (selector : Selector) :
    closes selectors selector = true ↔
      Instruction.Closes ⟨.enable, selectors⟩ selector := by
  simp [closes, Instruction.Closes]

/-- The directives that open ranges become, given the instructions still to
come. -/
def closeLater (lastLine : Nat) (events : List (Nat × Instruction))
    (ranges : List (Selector × Nat)) : List Directive :=
  ranges.filterMap fun range =>
    Directive.range? range.1 range.2
      (Instruction.endLine range.1 lastLine events)

private theorem closeLater_append
    (lastLine : Nat) (events : List (Nat × Instruction))
    (left right : List (Selector × Nat)) :
    closeLater lastLine events (left ++ right) =
      closeLater lastLine events left ++ closeLater lastLine events right :=
  List.filterMap_append

private theorem closeLater_nil
    (lastLine : Nat) (ranges : List (Selector × Nat)) :
    closeLater lastLine [] ranges = closeAt lastLine ranges :=
  rfl

private theorem closeLater_cons_of_closes
    {instruction : Instruction} {ranges : List (Selector × Nat)}
    (closes : ∀ range ∈ ranges, instruction.Closes range.1)
    (lastLine line : Nat) (later : List (Nat × Instruction)) :
    closeLater lastLine ((line, instruction) :: later) ranges =
      closeAt line ranges := by
  apply List.filterMap_congr
  intro range member
  rw [Instruction.endLine_cons_of_closes (closes range member)]

private theorem closeLater_cons_of_not_closes
    {instruction : Instruction} {ranges : List (Selector × Nat)}
    (keeps : ∀ range ∈ ranges, ¬ instruction.Closes range.1)
    (lastLine line : Nat) (later : List (Nat × Instruction)) :
    closeLater lastLine ((line, instruction) :: later) ranges =
      closeLater lastLine later ranges := by
  apply List.filterMap_congr
  intro range member
  rw [Instruction.endLine_cons_of_not_closes (keeps range member)]

private theorem closeLater_cons_of_action_ne
    {action : Action} (other : action ≠ .enable) (lastLine line : Nat)
    (selectors : List Selector) (later : List (Nat × Instruction))
    (ranges : List (Selector × Nat)) :
    closeLater lastLine ((line, ⟨action, selectors⟩) :: later) ranges =
      closeLater lastLine later ranges :=
  closeLater_cons_of_not_closes
    (fun range _ => Instruction.not_closes_of_action_ne other range.1) _ _ _

private theorem closeLater_perm
    {left right : List (Selector × Nat)} (permutation : left.Perm right)
    (lastLine : Nat) (events : List (Nat × Instruction)) :
    (closeLater lastLine events left).Perm (closeLater lastLine events right) :=
  permutation.filterMap _

/-- What all directives amount to in the middle of a scan: those completed, one
for each open range, and those of the instructions still to come. -/
theorem directives_finish_foldl_perm
    (lastLine : Nat) (events : List (Nat × Instruction)) (scan : Scan) :
    ((events.foldl step scan).finish lastLine).directives.Perm
      (scan.completed ++ (closeLater lastLine events scan.opened ++
        Instruction.allDirectives lastLine events)) := by
  induction events generalizing scan with
  | nil =>
      simp [finish, Instruction.allDirectives, closeLater_nil]
  | cons event later ih =>
      obtain ⟨line, action, selectors⟩ := event
      rw [List.foldl_cons]
      refine (ih _).trans ?_
      cases action with
      | disableLine =>
          have kept := closeLater_cons_of_action_ne
            (show Action.disableLine ≠ .enable by simp) lastLine line selectors
            later scan.opened
          simp only [step, Instruction.allDirectives, Instruction.directives,
            kept, List.append_assoc]
          apply List.Perm.append_left
          rw [← List.append_assoc, ← List.append_assoc]
          exact List.perm_append_comm.append_right _
      | disable =>
          have kept := closeLater_cons_of_action_ne
            (show Action.disable ≠ .enable by simp) lastLine line selectors
            later scan.opened
          have opened : closeLater lastLine later
                (selectors.map fun selector => (selector, line)) =
              Instruction.directives lastLine later
                (line, ⟨.disable, selectors⟩) := by
            simp [closeLater, Instruction.directives, List.filterMap_map]
          simp only [step, Instruction.allDirectives, kept, closeLater_append,
            opened, List.append_assoc]
          exact List.Perm.refl _
      | enable =>
          let closing :=
            scan.opened.filter fun range => closes selectors range.1
          let staying :=
            scan.opened.filter fun range => !closes selectors range.1
          have parts : (closing ++ staying).Perm scan.opened :=
            List.filter_append_perm _ _
          have closed : closeLater lastLine
                ((line, ⟨.enable, selectors⟩) :: later) closing =
              closeAt line closing := by
            apply closeLater_cons_of_closes
            intro range member
            exact (closes_iff _ _).mp (List.mem_filter.mp member).2
          have stayed : closeLater lastLine
                ((line, ⟨.enable, selectors⟩) :: later) staying =
              closeLater lastLine later staying := by
            apply closeLater_cons_of_not_closes
            intro range member closes
            have stays := (List.mem_filter.mp member).2
            simp [(closes_iff _ _).mpr closes] at stays
          have regrouped := closeLater_perm parts lastLine
            ((line, ⟨.enable, selectors⟩) :: later)
          rw [closeLater_append, closed, stayed] at regrouped
          simp only [step, List.partition_eq_filter_filter, Function.comp_def,
            Instruction.allDirectives, Instruction.directives, List.nil_append,
            List.append_assoc]
          apply List.Perm.append_left
          rw [← List.append_assoc]
          exact regrouped.append_right _

/-- An enable instruction without an open range to close leaves the directives
and the open ranges as they are. -/
theorem step_enable_of_unmatched
    {scan : Scan} {selectors : List Selector}
    (unmatched : ∀ range ∈ scan.opened,
      ¬ Instruction.Closes ⟨.enable, selectors⟩ range.1) (line : Nat) :
    (scan.step (line, ⟨.enable, selectors⟩)).completed = scan.completed ∧
      (scan.step (line, ⟨.enable, selectors⟩)).opened = scan.opened := by
  have none : ∀ range ∈ scan.opened, closes selectors range.1 = false := by
    intro range member
    exact Bool.eq_false_iff.mpr fun closes =>
      unmatched range member ((closes_iff _ _).mp closes)
  have closing : (scan.opened.filter fun range => closes selectors range.1) =
      [] :=
    List.filter_eq_nil_iff.mpr fun range member => by simp [none range member]
  have staying : (scan.opened.filter fun range => !closes selectors range.1) =
      scan.opened :=
    List.filter_eq_self.mpr fun range member => by simp [none range member]
  simp [step, List.partition_eq_filter_filter, Function.comp_def, closing,
    staying, closeAt]

/-- An enable instruction that only names rules leaves every range of every
rule open. -/
theorem mem_opened_step_named_enable
    {scan : Scan} {selectors : List Selector} (named : .every ∉ selectors)
    {first : Nat} (member : (.every, first) ∈ scan.opened) (line : Nat) :
    (.every, first) ∈ (scan.step (line, ⟨.enable, selectors⟩)).opened := by
  have keeps : closes selectors .every = false :=
    Bool.eq_false_iff.mpr fun closes =>
      Instruction.not_closes_every named ((closes_iff _ _).mp closes)
  simp [step, List.partition_eq_filter_filter, member, keeps]

end Scan

private theorem silences_line_iff
    {selector : Selector} {first : Nat} {rule : String} {line : Nat} :
    (Directive.line selector first).silences rule line = true ↔
      first = line ∧ selector.covers rule = true := by
  simp [Directive.silences, Directive.holds, Directive.selector]

private theorem exists_range?_silences_iff
    {selector : Selector} {first last : Nat} (positive : 0 < first)
    {rule : String} {line : Nat} :
    (∃ directive, Directive.range? selector first last = some directive ∧
        directive.silences rule line = true) ↔
      selector.covers rule = true ∧ first ≤ line ∧ line ≤ last := by
  by_cases ordered : first ≤ last
  · simp [Directive.range?, LineRange.of?, positive, ordered,
      Directive.silences, Directive.holds, Directive.selector, LineRange.holds,
      and_comm]
  · simp only [Directive.range?, LineRange.of?, ordered, and_false, dite_false,
      Option.map_none, reduceCtorEq, false_and, exists_false, false_iff,
      not_and]
    intro _ atLeast
    omega

theorem exists_mem_directives_iff
    {first : Nat} (positive : 0 < first)
    {action : Action} {selectors : List Selector} {lastLine : Nat}
    {later : List (Nat × Instruction)} {rule : String} {line : Nat} :
    (∃ directive ∈
        Instruction.directives lastLine later (first, ⟨action, selectors⟩),
      directive.silences rule line = true) ↔
    (action = .disableLine ∧ first = line ∧
      ∃ selector ∈ selectors, selector.covers rule = true) ∨
    (action = .disable ∧ first ≤ line ∧
      ∃ selector ∈ selectors, selector.covers rule = true ∧
        line ≤ Instruction.endLine selector lastLine later) := by
  cases action with
  | disableLine =>
      constructor
      · rintro ⟨directive, made, silenced⟩
        obtain ⟨selector, selected, rfl⟩ := List.mem_map.mp made
        obtain ⟨same, covered⟩ := silences_line_iff.mp silenced
        exact Or.inl ⟨rfl, same, selector, selected, covered⟩
      · rintro (⟨-, same, selector, selected, covered⟩ | ⟨other, -⟩)
        · exact ⟨_, List.mem_map.mpr ⟨selector, selected, rfl⟩,
            silences_line_iff.mpr ⟨same, covered⟩⟩
        · cases other
  | disable =>
      constructor
      · rintro ⟨directive, made, silenced⟩
        obtain ⟨selector, selected, made⟩ := List.mem_filterMap.mp made
        obtain ⟨covered, atLeast, atMost⟩ :=
          (exists_range?_silences_iff positive).mp ⟨directive, made, silenced⟩
        exact Or.inr ⟨rfl, atLeast, selector, selected, covered, atMost⟩
      · rintro (⟨other, -⟩ | ⟨-, atLeast, selector, selected, covered, atMost⟩)
        · cases other
        · obtain ⟨directive, made, silenced⟩ :=
            (exists_range?_silences_iff positive).mpr ⟨covered, atLeast, atMost⟩
          exact ⟨directive, List.mem_filterMap.mpr ⟨selector, selected, made⟩,
            silenced⟩
  | enable =>
      constructor
      · rintro ⟨directive, made, -⟩
        cases made
      · rintro (⟨other, -⟩ | ⟨other, -⟩)
        · cases other
        · cases other

namespace Suppressions

theorem directives_ofLines_perm (lines : List Text) :
    (ofLines lines).directives.Perm
      (Instruction.allDirectives lines.length (Instruction.ofLines lines)) :=
  Scan.directives_finish_foldl_perm lines.length (Instruction.ofLines lines)
    Scan.start

private theorem silences_iff_exists_event
    (lines : List Text) (rule : String) (line : Nat) :
    (ofLines lines).silences rule line = true ↔
      ∃ earlier first action selectors later,
        Instruction.ofLines lines =
          earlier ++ (first, ⟨action, selectors⟩) :: later ∧
        ((action = .disableLine ∧ first = line ∧
            ∃ selector ∈ selectors, selector.covers rule = true) ∨
          (action = .disable ∧ first ≤ line ∧
            ∃ selector ∈ selectors, selector.covers rule = true ∧
              line ≤ Instruction.endLine selector lines.length later)) := by
  have positive : ∀ {earlier first instruction later},
      Instruction.ofLines lines = earlier ++ (first, instruction) :: later →
        0 < first := by
    intro earlier first instruction later split
    have inUnit : (first, instruction) ∈ Instruction.ofLines lines := by
      rw [split]
      exact List.mem_append_right _ List.mem_cons_self
    exact Instruction.line_pos_of_mem_ofLines inUnit
  rw [silences, List.any_eq_true]
  constructor
  · rintro ⟨directive, member, silenced⟩
    obtain ⟨earlier, ⟨first, action, selectors⟩, later, split, made⟩ :=
      Instruction.mem_allDirectives_iff.mp
        ((directives_ofLines_perm lines).mem_iff.mp member)
    exact ⟨earlier, first, action, selectors, later, split,
      (exists_mem_directives_iff (positive split)).mp
        ⟨directive, made, silenced⟩⟩
  · rintro ⟨earlier, first, action, selectors, later, split, reaches⟩
    obtain ⟨directive, made, silenced⟩ :=
      (exists_mem_directives_iff (positive split)).mpr reaches
    refine ⟨directive, (directives_ofLines_perm lines).mem_iff.mpr ?_, silenced⟩
    exact Instruction.mem_allDirectives_iff.mpr ⟨earlier, _, later, split, made⟩

/-- A rule is silenced on a line by a disable-line instruction there, or by a
disable instruction whose range with one selector reaches the line: the range
ends with the first later enable instruction about that selector, or with the
unit.  In particular an enable instruction that only names rules keeps every
range of every rule open, and one without a range to close changes nothing. -/
theorem silences_ofLines (lines : List Text) :
    (∀ (rule : String) (line : Nat),
      (ofLines lines).silences rule line = true ↔
        (∃ selectors, (line, ⟨.disableLine, selectors⟩) ∈
          Instruction.ofLines lines ∧
          ∃ selector ∈ selectors, selector.covers rule = true) ∨
        ∃ earlier first selectors later,
          Instruction.ofLines lines =
            earlier ++ (first, ⟨.disable, selectors⟩) :: later ∧
          first ≤ line ∧
          ∃ selector ∈ selectors, selector.covers rule = true ∧
            line ≤ Instruction.endLine selector lines.length later) ∧
    ∀ earlier line selectors later,
      Instruction.ofLines lines =
          earlier ++ (line, ⟨.enable, selectors⟩) :: later →
      let before := earlier.foldl Scan.step Scan.start
      let after := before.step (line, ⟨.enable, selectors⟩)
      (.every ∉ selectors → ∀ first, (.every, first) ∈ before.opened →
        (.every, first) ∈ after.opened) ∧
      ((∀ range ∈ before.opened,
        ¬ Instruction.Closes ⟨.enable, selectors⟩ range.1) →
        after.completed = before.completed ∧ after.opened = before.opened) := by
  constructor
  · intro rule line
    rw [silences_iff_exists_event]
    constructor
    · rintro ⟨earlier, first, action, selectors, later, split,
        ⟨rfl, rfl, covered⟩ | ⟨rfl, atLeast, covered⟩⟩
      · refine Or.inl ⟨selectors, ?_, covered⟩
        rw [split]
        exact List.mem_append_right _ List.mem_cons_self
      · exact Or.inr ⟨earlier, first, selectors, later, split, atLeast, covered⟩
    · rintro (⟨selectors, inUnit, covered⟩ |
        ⟨earlier, first, selectors, later, split, atLeast, covered⟩)
      · obtain ⟨earlier, later, split⟩ := List.append_of_mem inUnit
        exact ⟨earlier, line, _, selectors, later, split,
          Or.inl ⟨rfl, rfl, covered⟩⟩
      · exact ⟨earlier, first, _, selectors, later, split,
          Or.inr ⟨rfl, atLeast, covered⟩⟩
  · intro earlier line selectors later _ before after
    constructor
    · intro named first member
      exact Scan.mem_opened_step_named_enable named member line
    · intro unmatched
      exact Scan.step_enable_of_unmatched unmatched line

theorem silences_ofLines_named_enable :
    Instruction.ofLines
        ["/* sqllint-disable */ SELECT *".toList,
          "-- sqllint-enable a".toList] =
      [(1, ⟨.disable, [.every]⟩)] ++ [(2, ⟨.enable, [.named ['a']]⟩)] ∧
    (.every, 1) ∈ ((Scan.start.step (1, ⟨.disable, [.every]⟩)).step
      (2, ⟨.enable, [.named ['a']]⟩)).opened := by
  have split : Instruction.ofLines
        ["/* sqllint-disable */ SELECT *".toList,
          "-- sqllint-enable a".toList] =
      [(1, ⟨.disable, [.every]⟩)] ++ [(2, ⟨.enable, [.named ['a']]⟩)] := by
    decide
  exact ⟨split,
    ((silences_ofLines _).2 _ _ _ _ split).1 (by decide) 1 (by decide)⟩

end Suppressions

end QueryLint
