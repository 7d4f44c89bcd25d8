import Mathlib.Algebra.GroupWithZero.Nat
import QueryLint.Proofs.Suppression.Coverage
import QueryLint.Proofs.Text.Lowering
import QueryLint.Proofs.Text.Pieces

/-!
# Where directives come from

Every selector of a disable or disable-line instruction becomes one directive
that starts on the line of the instruction, and there are no other directives.
No selector is lost: the instructions of a unit are in the order of their lines,
so that a range is never closed before it begins.
-/

namespace QueryLint

namespace Selector

/-- The selector is about every rule, or it names a rule by one word in lower
case that is not the sign for every rule. -/
def Regular : Selector → Prop
  | every => True
  | named name =>
      name ≠ [] ∧ name ≠ ['*'] ∧ Text.lower name = name ∧
        ∀ character ∈ name, character ≠ ',' ∧ Text.isBlank character = false

private theorem regular_ofName {word : Text} (holds : word ≠ [])
    (other : word ≠ ['*'])
    (solid : ∀ character ∈ word,
      character ≠ ',' ∧ Text.isBlank character = false) :
    (ofName word).Regular := by
  refine ⟨?_, ?_, Text.lower_lower word, ?_⟩
  · exact List.map_eq_nil_iff.not.mpr holds
  · intro star
    obtain ⟨character, rfl, lowered⟩ := List.map_eq_singleton_iff.mp star
    exact other (congrArg (fun sign => [sign])
      (Text.eq_of_toLower_eq lowered (by decide)))
  · intro lowered member
    obtain ⟨character, inWord, rfl⟩ := List.mem_map.mp member
    obtain ⟨notComma, notBlank⟩ := solid character inWord
    constructor
    · intro comma
      exact notComma (Text.eq_of_toLower_eq comma (by decide))
    · rw [Text.isBlank_toLower, notBlank]

theorem regular_of_mem_ofList {names : Text} {selector : Selector}
    (member : selector ∈ ofList names) : selector.Regular := by
  simp only [ofList] at member
  split at member
  · rw [List.mem_singleton.mp member]
    trivial
  · next some =>
      obtain ⟨-, noStar⟩ := not_or.mp (Bool.or_eq_true _ _ ▸ some)
      obtain ⟨word, inWords, rfl⟩ := List.mem_map.mp member
      obtain ⟨piece, nonempty⟩ := List.mem_filter.mp inWords
      apply regular_ofName
      · simpa using nonempty
      · rintro rfl
        exact noStar (List.contains_iff_mem.mpr inWords)
      · intro character inside
        have kept := Text.isSeparator_of_mem_splitOn piece inside
        simpa using kept

end Selector

/-- The kind of the directive, its selector and the line on which it starts. -/
def Directive.origin : Directive → Action × Selector × Nat
  | line selector number => (.disableLine, selector, number)
  | range selector lines => (.disable, selector, lines.first)

theorem Directive.exists_range?_eq_some {first last : Nat}
    (positive : 0 < first) (ordered : first ≤ last) (selector : Selector) :
    ∃ directive, range? selector first last = some directive ∧
      directive.origin = (.disable, selector, first) := by
  refine ⟨.range selector ⟨first, last, positive, ordered⟩, ?_, rfl⟩
  rw [range?, LineRange.of?, dif_pos ⟨positive, ordered⟩]
  rfl

namespace Instruction

/-- What the directives of one instruction come from: each of its selectors,
unless the instruction only closes ranges. -/
def origins : Nat × Instruction → List (Action × Selector × Nat)
  | (_, ⟨.enable, _⟩) => []
  | (line, ⟨action, selectors⟩) =>
      selectors.map fun selector => (action, selector, line)

theorem mem_origins_iff {action : Action} {selector : Selector} {line : Nat}
    {event : Nat × Instruction} :
    (action, selector, line) ∈ origins event ↔
      action ≠ .enable ∧ event.1 = line ∧ event.2.action = action ∧
        selector ∈ event.2.selectors := by
  obtain ⟨number, kind, selectors⟩ := event
  cases kind <;> cases action <;> simp [origins, and_comm]

theorem length_flatMap_origins (events : List (Nat × Instruction)) :
    (events.flatMap origins).length =
      ((events.filter fun event => event.2.action ≠ .enable).map fun event =>
        event.2.selectors.length).sum := by
  induction events with
  | nil => rfl
  | cons event events ih =>
      obtain ⟨number, action, selectors⟩ := event
      rw [List.flatMap_cons, List.length_append, ih]
      cases action <;> simp [origins]

theorem pairwise_ofLines (lines : List Text) :
    (ofLines lines).Pairwise fun earlier later => earlier.1 ≤ later.1 := by
  rw [ofLines, List.pairwise_flatMap]
  constructor
  · intro numbered _
    apply List.pairwise_map.mpr
    exact List.pairwise_of_forall fun _ _ => le_rfl
  · apply (pairwise_zipIdx _ _).imp
    intro earlier later ordered first firstMember second secondMember
    obtain ⟨-, -, rfl⟩ := List.mem_map.mp firstMember
    obtain ⟨-, -, rfl⟩ := List.mem_map.mp secondMember
    exact ordered.le

theorem exists_selectors_eq_ofList {body : Text} {instruction : Instruction}
    (read : ofComment? body = some instruction) :
    ∃ names, instruction.selectors = Selector.ofList names := by
  unfold ofComment? at read
  split at read
  · cases read
  · split at read
    · split at read
      · cases read
      · cases read
        exact ⟨_, rfl⟩
    · cases read

theorem regular_of_mem_ofLines {lines : List Text} {event : Nat × Instruction}
    (member : event ∈ ofLines lines) {selector : Selector}
    (selected : selector ∈ event.2.selectors) : selector.Regular := by
  obtain ⟨⟨lexed, number⟩, -, inLine⟩ := List.mem_flatMap.mp member
  obtain ⟨instruction, instructs, rfl⟩ := List.mem_map.mp inLine
  obtain ⟨body, -, read⟩ := List.mem_filterMap.mp instructs
  obtain ⟨names, listed⟩ := exists_selectors_eq_ofList read
  rw [listed] at selected
  exact Selector.regular_of_mem_ofList selected

variable {lastLine : Nat}

/-- A range ends on the line of a later instruction or on the last line. -/
theorem le_endLine {first : Nat} {later : List (Nat × Instruction)}
    (ordered : ∀ event ∈ later, first ≤ event.1) (bounded : first ≤ lastLine)
    (selector : Selector) : first ≤ endLine selector lastLine later := by
  unfold endLine
  cases found : later.find? fun event => decide (event.2.Closes selector) with
  | none => exact bounded
  | some event => exact ordered event (List.mem_of_find?_eq_some found)

theorem map_origin_directives {event : Nat × Instruction}
    {later : List (Nat × Instruction)} (positive : 0 < event.1)
    (ordered : ∀ other ∈ later, event.1 ≤ other.1)
    (bounded : event.1 ≤ lastLine) :
    (directives lastLine later event).map Directive.origin = origins event := by
  obtain ⟨line, action, selectors⟩ := event
  cases action with
  | enable => rfl
  | disableLine => exact List.map_map
  | disable =>
      have made : ∀ selector ∈ selectors,
          (Directive.range? selector line (endLine selector lastLine later)).map
            Directive.origin = some (.disable, selector, line) := by
        intro selector _
        obtain ⟨directive, some, same⟩ :=
          Directive.exists_range?_eq_some positive
            (le_endLine ordered bounded selector) selector
        rw [some, Option.map_some, same]
      rw [directives, List.map_filterMap, List.filterMap_congr made,
        List.filterMap_eq_map']
      rfl

/-- Instructions in the order of their lines lose no selector. -/
theorem map_origin_allDirectives {events : List (Nat × Instruction)}
    (positive : ∀ event ∈ events, 0 < event.1)
    (bounded : ∀ event ∈ events, event.1 ≤ lastLine)
    (ordered : events.Pairwise fun earlier later => earlier.1 ≤ later.1) :
    (allDirectives lastLine events).map Directive.origin =
      events.flatMap origins := by
  induction events with
  | nil => rfl
  | cons event later ih =>
      obtain ⟨firstPositive, laterPositive⟩ := List.forall_mem_cons.mp positive
      obtain ⟨firstBounded, laterBounded⟩ := List.forall_mem_cons.mp bounded
      obtain ⟨firstOrdered, laterOrdered⟩ := List.pairwise_cons.mp ordered
      rw [allDirectives, List.map_append, List.flatMap_cons,
        map_origin_directives firstPositive firstOrdered firstBounded,
        ih laterPositive laterBounded laterOrdered]

end Instruction

namespace Scan

private theorem mem_opened_step {scan : Scan} {event : Nat × Instruction}
    {range : Selector × Nat} (member : range ∈ (scan.step event).opened) :
    range ∈ scan.opened ∨ range.2 = event.1 := by
  obtain ⟨line, action, selectors⟩ := event
  cases action with
  | disableLine => exact Or.inl member
  | disable =>
      rcases List.mem_append.mp member with before | added
      · exact Or.inl before
      · obtain ⟨selector, -, rfl⟩ := List.mem_map.mp added
        exact Or.inr rfl
  | enable =>
      simp only [step, List.partition_eq_filter_filter] at member
      exact Or.inl (List.mem_filter.mp member).1

/-- Whatever is open was opened by an instruction before. -/
theorem exists_event_of_mem_opened {scan : Scan}
    {events : List (Nat × Instruction)} {range : Selector × Nat}
    (member : range ∈ (events.foldl step scan).opened) :
    range ∈ scan.opened ∨ ∃ event ∈ events, range.2 = event.1 := by
  induction events generalizing scan with
  | nil => exact Or.inl member
  | cons event events ih =>
      rcases ih member with inStep | ⟨later, inEvents, same⟩
      · rcases mem_opened_step inStep with before | same
        · exact Or.inl before
        · exact Or.inr ⟨event, List.mem_cons_self, same⟩
      · exact Or.inr ⟨later, List.mem_cons_of_mem _ inEvents, same⟩

/-- A range that is open after some instructions can be closed on every line
that is not before theirs. -/
theorem exists_range?_of_mem_opened {lines : List Text}
    {earlier later : List (Nat × Instruction)}
    (split : Instruction.ofLines lines = earlier ++ later)
    {range : Selector × Nat}
    (member : range ∈ (earlier.foldl step start).opened) {line : Nat}
    (reaches : ∀ event ∈ earlier, event.1 ≤ line) :
    ∃ directive, Directive.range? range.1 range.2 line = some directive ∧
      directive.origin = (.disable, range.1, range.2) := by
  rcases exists_event_of_mem_opened member with none | ⟨event, inEarlier, same⟩
  · cases none
  · have inUnit : event ∈ Instruction.ofLines lines := by
      rw [split]
      exact List.mem_append_left _ inEarlier
    apply Directive.exists_range?_eq_some
    · rw [same]
      exact Instruction.line_pos_of_mem_ofLines inUnit
    · rw [same]
      exact reaches event inEarlier

end Scan

namespace Suppressions

/-- The directives of a unit are, up to their order, one for each selector of a
disable or disable-line instruction. -/
theorem map_origin_ofLines_perm (lines : List Text) :
    ((ofLines lines).directives.map Directive.origin).Perm
      ((Instruction.ofLines lines).flatMap Instruction.origins) := by
  have accounted : (Instruction.allDirectives lines.length
      (Instruction.ofLines lines)).map Directive.origin =
        (Instruction.ofLines lines).flatMap Instruction.origins := by
    apply Instruction.map_origin_allDirectives
    · intro event member
      exact Instruction.line_pos_of_mem_ofLines member
    · intro event member
      exact Instruction.line_le_of_mem_ofLines member
    · exact Instruction.pairwise_ofLines lines
  rw [← accounted]
  exact (directives_ofLines_perm lines).map Directive.origin

theorem exists_event_of_mem {lines : List Text} {directive : Directive}
    (member : directive ∈ (ofLines lines).directives) :
    ∃ event ∈ Instruction.ofLines lines,
      directive.origin ∈ Instruction.origins event :=
  List.mem_flatMap.mp
    ((map_origin_ofLines_perm lines).mem_iff.mp (List.mem_map_of_mem member))

theorem regular_selector_of_mem {lines : List Text} {directive : Directive}
    (member : directive ∈ (ofLines lines).directives) :
    directive.selector.Regular := by
  obtain ⟨event, inUnit, origin⟩ := exists_event_of_mem member
  have selected : directive.selector ∈ event.2.selectors := by
    cases directive with
    | line => exact (Instruction.mem_origins_iff.mp origin).2.2.2
    | range => exact (Instruction.mem_origins_iff.mp origin).2.2.2
  exact Instruction.regular_of_mem_ofLines inUnit selected

theorem line_bounds_of_line_mem {lines : List Text} {selector : Selector}
    {line : Nat} (member : .line selector line ∈ (ofLines lines).directives) :
    1 ≤ line ∧ line ≤ lines.length := by
  obtain ⟨event, inUnit, origin⟩ := exists_event_of_mem member
  obtain ⟨-, rfl, -⟩ := Instruction.mem_origins_iff.mp origin
  exact ⟨Instruction.line_pos_of_mem_ofLines inUnit,
    Instruction.line_le_of_mem_ofLines inUnit⟩

/-- Scanning neither loses directives nor invents any: there are as many as
disable and disable-line instructions have selectors, each from one of these
selectors; all are about lines of the unit; every range that is open at an
enable instruction or at the end can be closed there; and every rule is named by
one word in lower case. -/
theorem directives_ofLines_complete (lines : List Text) :
    let directives := (ofLines lines).directives
    let events := Instruction.ofLines lines
    directives.length =
      ((events.filter fun event => event.2.action ≠ .enable).map fun event =>
        event.2.selectors.length).sum ∧
    (directives.map Directive.origin).Perm
        (events.flatMap Instruction.origins) ∧
    (∀ selector line, .line selector line ∈ directives →
      1 ≤ line ∧ line ≤ lines.length) ∧
    (∀ selector range, .range selector range ∈ directives →
      1 ≤ range.first ∧ range.first ≤ range.last ∧ range.last ≤ lines.length) ∧
    (∀ earlier line selectors later,
      events = earlier ++ (line, ⟨.enable, selectors⟩) :: later →
      ∀ range ∈ (earlier.foldl Scan.step Scan.start).opened,
        Directive.range? range.1 range.2 line ≠ none) ∧
    (∀ range ∈ (Scan.ofLines lines).opened,
      Directive.range? range.1 range.2 lines.length ≠ none) ∧
    (∀ event ∈ events, ∀ selector ∈ event.2.selectors, selector.Regular) ∧
    ∀ directive ∈ directives, directive.selector.Regular := by
  intro directives events
  have accounted := map_origin_ofLines_perm lines
  refine ⟨?_, accounted, ?_, ?_, ?_, ?_, ?_, ?_⟩
  · rw [← Instruction.length_flatMap_origins, ← accounted.length_eq,
      List.length_map]
  · intro selector line member
    exact line_bounds_of_line_mem member
  · intro selector range member
    exact ⟨range.first_pos, range.ordered, last_le_of_range_mem member⟩
  · intro earlier line selectors later split range member
    have sorted := Instruction.pairwise_ofLines lines
    rw [show Instruction.ofLines lines = _ from split,
      List.pairwise_append] at sorted
    obtain ⟨directive, made, -⟩ := Scan.exists_range?_of_mem_opened split member
      fun event inEarlier => sorted.2.2 event inEarlier _ List.mem_cons_self
    rw [made]
    exact Option.some_ne_none directive
  · intro range member
    obtain ⟨directive, made, -⟩ := Scan.exists_range?_of_mem_opened
      (List.append_nil _).symm member fun event inUnit =>
        Instruction.line_le_of_mem_ofLines inUnit
    rw [made]
    exact Option.some_ne_none directive
  · intro event member selector selected
    exact Instruction.regular_of_mem_ofLines member selected
  · intro directive member
    exact regular_selector_of_mem member

theorem directives_ofLines_complete_mixed :
    let lines :=
      ["/* sqllint-disable Select-Star,a */ /* sqllint-disable */".toList,
        "-- sqllint-disable-line b".toList,
        "-- sqllint-enable SELECT-STAR".toList]
    let star : Selector := .named "select-star".toList
    let earlier : List (Nat × Instruction) :=
      [(1, ⟨.disable, [star, .named ['a']]⟩), (1, ⟨.disable, [.every]⟩),
        (2, ⟨.disableLine, [.named ['b']]⟩)]
    let whole : LineRange := ⟨1, 3, by decide, by decide⟩
    Instruction.ofLines lines = earlier ++ [(3, ⟨.enable, [star]⟩)] ∧
    (ofLines lines).directives.length = 4 ∧
    (.line (.named ['b']) 2 ∈ (ofLines lines).directives ∧ 2 ≤ lines.length) ∧
    (.range star whole ∈ (ofLines lines).directives ∧
      whole.last ≤ lines.length ∧
      star.Regular) ∧
    (star, 1) ∈ (earlier.foldl Scan.step Scan.start).opened ∧
    Directive.range? star 1 3 ≠ none ∧
    (.every, 1) ∈ (Scan.ofLines lines).opened ∧
    Directive.range? .every 1 3 ≠ none := by
  intro lines star earlier whole
  have split : Instruction.ofLines lines =
      earlier ++ [(3, ⟨.enable, [star]⟩)] := by
    decide +kernel
  have silenced : .line (.named ['b']) 2 ∈ (ofLines lines).directives := by
    decide +kernel
  have closed : .range star whole ∈ (ofLines lines).directives := by
    decide +kernel
  have opened : (star, 1) ∈ (earlier.foldl Scan.step Scan.start).opened := by
    decide
  have left : (.every, 1) ∈ (Scan.ofLines lines).opened := by decide +kernel
  obtain ⟨counted, -, ofLine, ofRange, closes, closesLast, -, regular⟩ :=
    directives_ofLines_complete lines
  refine ⟨split, ?_, ⟨silenced, (ofLine _ _ silenced).2⟩,
    ⟨closed, (ofRange _ _ closed).2.2, regular _ closed⟩, opened,
    closes _ _ _ _ split _ opened, left, closesLast _ left⟩
  rw [counted, split]
  rfl

end Suppressions

end QueryLint
