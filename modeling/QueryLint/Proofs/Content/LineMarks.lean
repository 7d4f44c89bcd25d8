import Mathlib.Data.List.Infix

/-!
# Lines and their ends

A line ends with a carriage return, with a line feed, or with both in this
order.  `Splits` relates content over any alphabet to its lines: each has its
end behind it, and only the last may lack one.  Content has one list of lines at
most.  Where a map takes the marks of one alphabet to those of another, and
nothing else to them, what it makes of content has the lines that it makes of
the lines.
-/

namespace QueryLint

/-- The two characters that end lines. -/
structure LineMarks (α : Type) where
  carriage : α
  feed : α
  distinct : carriage ≠ feed

/-- How a line ends. -/
inductive LineEnd where
  | feed
  | carriage
  | both
  deriving DecidableEq, Repr

namespace LineMarks

variable {α β : Type} (marks : LineMarks α) {content line rest : List α}
  {ending : LineEnd}

def spelled : LineEnd → List α
  | .feed => [marks.feed]
  | .carriage => [marks.carriage]
  | .both => [marks.carriage, marks.feed]

/-- No line ends inside. -/
structure Plain (line : List α) : Prop where
  noCarriage : marks.carriage ∉ line
  noFeed : marks.feed ∉ line

/-- What follows does not extend the end: before a line feed, a carriage return
is no end without it. -/
def Stops (ending : LineEnd) (rest : List α) : Prop :=
  ending = .carriage → rest.head? ≠ some marks.feed

/-- The content is these lines, each with its end behind it.  Only the last may
lack an end, and then it is not empty. -/
inductive Splits : List α → List (List α) → Prop where
  | nil : Splits [] []
  | unended {line : List α} (plain : marks.Plain line) (filled : line ≠ []) :
      Splits line [line]
  | ended {line rest : List α} {lines : List (List α)} (ending : LineEnd)
      (plain : marks.Plain line) (stops : marks.Stops ending rest)
      (later : Splits rest lines) :
      Splits (line ++ marks.spelled ending ++ rest) (line :: lines)

theorem plain_nil : marks.Plain [] :=
  ⟨List.not_mem_nil, List.not_mem_nil⟩

theorem plain_cons_iff {character : α} :
    marks.Plain (character :: line) ↔
      (character ≠ marks.carriage ∧ character ≠ marks.feed) ∧
      marks.Plain line := by
  constructor
  · intro plain
    obtain ⟨notCarriage, noCarriage⟩ :=
      List.ne_and_not_mem_of_not_mem_cons plain.noCarriage
    obtain ⟨notFeed, noFeed⟩ := List.ne_and_not_mem_of_not_mem_cons plain.noFeed
    exact ⟨⟨notCarriage.symm, notFeed.symm⟩, noCarriage, noFeed⟩
  · intro ⟨⟨notCarriage, notFeed⟩, noCarriage, noFeed⟩
    exact ⟨List.not_mem_cons_of_ne_of_not_mem notCarriage.symm noCarriage,
      List.not_mem_cons_of_ne_of_not_mem notFeed.symm noFeed⟩

theorem spelled_ne_nil (ending : LineEnd) : marks.spelled ending ≠ [] := by
  cases ending <;> exact List.cons_ne_nil _ _

/-- An end begins with one of the marks. -/
theorem exists_spelled_eq_cons (ending : LineEnd) :
    ∃ mark others, marks.spelled ending = mark :: others ∧
      (mark = marks.carriage ∨ mark = marks.feed) := by
  cases ending with
  | feed => exact ⟨_, _, rfl, .inr rfl⟩
  | carriage => exact ⟨_, _, rfl, .inl rfl⟩
  | both => exact ⟨_, _, rfl, .inl rfl⟩

theorem Plain.not_mark {marks : LineMarks α} (plain : marks.Plain line)
    {character : α} (inside : character ∈ line) :
    ¬ (character = marks.carriage ∨ character = marks.feed) := by
  intro isMark
  rcases isMark with rfl | rfl
  · exact plain.noCarriage inside
  · exact plain.noFeed inside

theorem not_plain_ended :
    ¬ marks.Plain (line ++ marks.spelled ending ++ rest) := by
  obtain ⟨mark, others, spelled, isMark⟩ := marks.exists_spelled_eq_cons ending
  intro plain
  refine plain.not_mark ?_ isMark
  simp [spelled]

theorem ended_ne_nil : line ++ marks.spelled ending ++ rest ≠ [] := by
  simp [marks.spelled_ne_nil ending]

/-- The same content cannot begin with two ends. -/
theorem rest_eq_of_spelled_append {another : LineEnd} {remaining : List α}
    (stops : marks.Stops ending rest)
    (alsoStops : marks.Stops another remaining)
    (same : marks.spelled ending ++ rest = marks.spelled another ++ remaining) :
    rest = remaining := by
  cases ending with
  | feed =>
      cases another with
      | feed => exact (List.cons.inj same).2
      | carriage => exact absurd (List.cons.inj same).1.symm marks.distinct
      | both => exact absurd (List.cons.inj same).1.symm marks.distinct
  | carriage =>
      cases another with
      | feed => exact absurd (List.cons.inj same).1 marks.distinct
      | carriage => exact (List.cons.inj same).2
      | both =>
          have extended : rest = marks.feed :: remaining :=
            (List.cons.inj same).2
          exact absurd (congrArg List.head? extended) (stops rfl)
  | both =>
      cases another with
      | feed => exact absurd (List.cons.inj same).1 marks.distinct
      | carriage =>
          have extended : remaining = marks.feed :: rest :=
            (List.cons.inj same).2.symm
          exact absurd (congrArg List.head? extended) (alsoStops rfl)
      | both => exact (List.cons.inj (List.cons.inj same).2).2

/-- What comes before and after the first end of a line is decided by the
content. -/
theorem eq_of_ended {other : List α} {another : LineEnd} {remaining : List α}
    (plain : marks.Plain line) (alsoPlain : marks.Plain other)
    (stops : marks.Stops ending rest)
    (alsoStops : marks.Stops another remaining)
    (same : line ++ marks.spelled ending ++ rest =
      other ++ marks.spelled another ++ remaining) :
    line = other ∧ rest = remaining := by
  -- a line that is over before the other one has its end inside of it
  induction line generalizing other with
  | nil =>
      cases other with
      | nil => exact ⟨rfl, marks.rest_eq_of_spelled_append stops alsoStops same⟩
      | cons character others =>
          obtain ⟨mark, later, spelled, isMark⟩ :=
            marks.exists_spelled_eq_cons ending
          rw [spelled] at same
          obtain rfl : mark = character := (List.cons.inj same).1
          exact absurd isMark (alsoPlain.not_mark List.mem_cons_self)
  | cons character line ih =>
      cases other with
      | nil =>
          obtain ⟨mark, later, spelled, isMark⟩ :=
            marks.exists_spelled_eq_cons another
          rw [spelled] at same
          obtain rfl : character = mark := (List.cons.inj same).1
          exact absurd isMark (plain.not_mark List.mem_cons_self)
      | cons next others =>
          obtain ⟨rfl, later⟩ := List.cons.inj same
          obtain ⟨rfl, rfl⟩ := ih (marks.plain_cons_iff.mp plain).2
            (marks.plain_cons_iff.mp alsoPlain).2 later
          exact ⟨rfl, rfl⟩

namespace Splits

variable {marks} {lines others : List (List α)}

theorem plain (splits : marks.Splits content lines) :
    ∀ line ∈ lines, marks.Plain line := by
  induction splits with
  | nil => exact fun _ member => absurd member List.not_mem_nil
  | unended plain => exact List.forall_mem_singleton.mpr plain
  | ended _ plain _ _ ih => exact List.forall_mem_cons.mpr ⟨plain, ih⟩

/-- Content has one list of lines at most. -/
theorem unique (splits : marks.Splits content lines)
    (also : marks.Splits content others) :
    lines = others := by
  induction splits generalizing others with
  | nil =>
      generalize empty : ([] : List α) = content at also
      cases also with
      | nil => rfl
      | unended _ filled => exact absurd empty.symm filled
      | ended => exact absurd empty.symm marks.ended_ne_nil
  | unended plain filled =>
      cases also with
      | nil => exact absurd rfl filled
      | unended => rfl
      | ended => exact absurd plain marks.not_plain_ended
  | @ended line rest lines ending plain stops later ih =>
      generalize whole : line ++ marks.spelled ending ++ rest = content at also
      cases also with
      | nil => exact absurd whole marks.ended_ne_nil
      | unended alsoPlain =>
          rw [← whole] at alsoPlain
          exact absurd alsoPlain marks.not_plain_ended
      | ended another alsoPlain alsoStops alsoLater =>
          obtain ⟨rfl, rfl⟩ :=
            marks.eq_of_ended plain alsoPlain stops alsoStops whole
          rw [ih alsoLater]

end Splits

/-- The map takes the marks of one alphabet to those of another, and nothing
else to them. -/
structure Keeps (marks : LineMarks α) (images : LineMarks β) (image : α → β) :
    Prop where
  carriage : ∀ character, image character = images.carriage ↔
    character = marks.carriage
  feed : ∀ character, image character = images.feed ↔ character = marks.feed

namespace Keeps

variable {marks} {images : LineMarks β} {image : α → β}
  (keeps : Keeps marks images image)

include keeps

theorem plain (plain : images.Plain (line.map image)) : marks.Plain line := by
  constructor
  · intro inside
    apply plain.noCarriage
    rw [← (keeps.carriage marks.carriage).mpr rfl]
    exact List.mem_map_of_mem inside
  · intro inside
    apply plain.noFeed
    rw [← (keeps.feed marks.feed).mpr rfl]
    exact List.mem_map_of_mem inside

theorem spelled (spelled : content.map image = images.spelled ending) :
    content = marks.spelled ending := by
  cases ending with
  | feed =>
      obtain ⟨mark, rfl, isFeed⟩ := List.map_eq_singleton_iff.mp spelled
      rw [(keeps.feed mark).mp isFeed]
      rfl
  | carriage =>
      obtain ⟨mark, rfl, isCarriage⟩ := List.map_eq_singleton_iff.mp spelled
      rw [(keeps.carriage mark).mp isCarriage]
      rfl
  | both =>
      obtain ⟨mark, others, rfl, isCarriage, spelled⟩ :=
        List.map_eq_cons_iff.mp spelled
      obtain ⟨next, rfl, isFeed⟩ := List.map_eq_singleton_iff.mp spelled
      rw [(keeps.carriage mark).mp isCarriage, (keeps.feed next).mp isFeed]
      rfl

theorem stops (stops : images.Stops ending (rest.map image)) :
    marks.Stops ending rest := by
  intro alone first
  apply stops alone
  rw [List.head?_map, first, ← (keeps.feed marks.feed).mpr rfl]
  rfl

/-- The lines of what a map makes of content are made of the lines of the
content. -/
theorem exists_splits {lines : List (List β)}
    (splits : images.Splits (content.map image) lines) :
    ∃ originals, marks.Splits content originals ∧
      originals.map (List.map image) = lines := by
  generalize mapped : content.map image = whole at splits
  induction splits generalizing content with
  | nil =>
      obtain rfl := List.map_eq_nil_iff.mp mapped
      exact ⟨[], .nil, rfl⟩
  | unended plain filled =>
      subst mapped
      exact ⟨[content],
        .unended (keeps.plain plain) (mt List.map_eq_nil_iff.mpr filled), rfl⟩
  | ended ending plain stops later ih =>
      obtain ⟨front, rest, rfl, mappedFront, rfl⟩ :=
        List.map_eq_append_iff.mp mapped
      obtain ⟨line, middle, rfl, rfl, mappedMiddle⟩ :=
        List.map_eq_append_iff.mp mappedFront
      obtain rfl := keeps.spelled mappedMiddle
      obtain ⟨originals, splits, rfl⟩ := ih rfl
      refine ⟨line :: originals, ?_, rfl⟩
      exact .ended ending (keeps.plain plain) (keeps.stops stops) splits

end Keeps

end LineMarks

end QueryLint
