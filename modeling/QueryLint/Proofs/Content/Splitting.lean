import QueryLint.Content.Basic
import QueryLint.Proofs.Content.LineMarks

/-!
# Cutting content into lines

Content is cut into the one list of lines of which it is made, each with its end
behind it.  There are as many lines as ends, and one more if something follows
the last end.  Two contents are cut like their join, unless the last line of the
first goes on in the second.
-/

namespace QueryLint

namespace LineMarks

variable {α : Type} [DecidableEq α] (marks : LineMarks α)
  {content line rest : List α} {ending : LineEnd}

/-- The first character is the last of an end. -/
def endsLine : List α → Bool
  | [] => false
  | mark :: rest =>
      mark = marks.feed || mark = marks.carriage && rest.head? ≠ some marks.feed

/-- Number of ends, each of them counted at its last character. -/
def endCount (content : List α) : Nat :=
  content.tails.countP marks.endsLine

/-- Something follows the last end. -/
def lacksEnd (content : List α) : Bool :=
  content.getLast?.any fun last => last ≠ marks.carriage && last ≠ marks.feed

/-- The last end of what is before goes on in what is after. -/
def goesOn (before after : List α) : Bool :=
  before.getLast? = some marks.carriage && after.head? = some marks.feed

theorem endCount_cons (character : α) (rest : List α) :
    marks.endCount (character :: rest) =
      marks.endCount rest + (marks.endsLine (character :: rest)).toNat := by
  rw [endCount, List.tails_cons, List.countP_cons, endCount]
  cases marks.endsLine (character :: rest) <;> rfl

/-- A carriage return ends a line by itself or goes on in a line feed. -/
private theorem endsLine_singleton (character : α) (after : List α) :
    (marks.endsLine (character :: after)).toNat +
      (marks.goesOn [character] after).toNat =
      (marks.endsLine [character]).toNat := by
  by_cases isFeed : character = marks.feed
  · simp [endsLine, goesOn, isFeed, Ne.symm marks.distinct]
  · by_cases isCarriage : character = marks.carriage
    · by_cases followed : after.head? = some marks.feed
      · simp [endsLine, goesOn, isCarriage, followed, marks.distinct]
      · simp [endsLine, goesOn, isCarriage, followed]
    · simp [endsLine, goesOn, isFeed, isCarriage]

theorem endCount_append (before after : List α) :
    marks.endCount (before ++ after) + (marks.goesOn before after).toNat =
      marks.endCount before + marks.endCount after := by
  induction before with
  | nil => simp [goesOn, endCount, endsLine]
  | cons character before ih =>
      cases before with
      | nil =>
          have seam := marks.endsLine_singleton character after
          have none : marks.endCount [] = 0 := rfl
          rw [List.singleton_append, endCount_cons, endCount_cons, none]
          omega
      | cons next before =>
          have seam : marks.goesOn (character :: next :: before) after =
              marks.goesOn (next :: before) after := by
            rw [goesOn, List.getLast?_cons_cons, goesOn]
          have here : marks.endsLine (character :: (next :: before ++ after)) =
              marks.endsLine (character :: next :: before) := rfl
          rw [List.cons_append, endCount_cons, endCount_cons, seam, here]
          omega

variable {marks} {before after : List α} {lines others : List (List α)}

namespace Plain

variable (plain : marks.Plain line)

include plain

theorem endCount_eq_zero : marks.endCount line = 0 := by
  induction line with
  | nil => rfl
  | cons character line ih =>
      obtain ⟨⟨notCarriage, notFeed⟩, later⟩ := marks.plain_cons_iff.mp plain
      rw [endCount_cons, ih later]
      simp [endsLine, notCarriage, notFeed]

theorem goesOn_eq_false (rest : List α) : marks.goesOn line rest = false := by
  have notLast : line.getLast? ≠ some marks.carriage := fun last =>
    plain.noCarriage (List.mem_of_getLast? last)
  simp [goesOn, notLast]

theorem lacksEnd_eq_true (filled : line ≠ []) : marks.lacksEnd line = true := by
  obtain ⟨notCarriage, notFeed⟩ :=
    not_or.mp (plain.not_mark (List.getLast_mem filled))
  simp [lacksEnd, List.getLast?_eq_some_getLast filled, notCarriage, notFeed]

end Plain

theorem lacksEnd_append (before : List α) (filled : after ≠ []) :
    marks.lacksEnd (before ++ after) = marks.lacksEnd after := by
  rw [lacksEnd, List.getLast?_append_of_ne_nil before filled, lacksEnd]

theorem goesOn_append (before : List α) {between : List α}
    (filled : between ≠ []) (after : List α) :
    marks.goesOn (before ++ between) after = marks.goesOn between after := by
  rw [goesOn, List.getLast?_append_of_ne_nil before filled, goesOn]

theorem endCount_spelled (ending : LineEnd) :
    marks.endCount (marks.spelled ending) = 1 := by
  cases ending <;> simp [spelled, endCount, endsLine, marks.distinct]

theorem goesOn_spelled_iff : marks.goesOn (marks.spelled ending) rest = false ↔
    marks.Stops ending rest := by
  cases ending <;> simp [spelled, goesOn, Stops, Ne.symm marks.distinct]

theorem endCount_ended (plain : marks.Plain line)
    (stops : marks.Stops ending rest) :
    marks.endCount (line ++ marks.spelled ending ++ rest) =
      marks.endCount rest + 1 := by
  have behind := marks.endCount_append (marks.spelled ending) rest
  have whole := marks.endCount_append line (marks.spelled ending ++ rest)
  rw [goesOn_spelled_iff.mpr stops, endCount_spelled] at behind
  rw [plain.goesOn_eq_false, plain.endCount_eq_zero] at whole
  rw [List.append_assoc]
  simp only [Bool.toNat_false] at behind whole
  omega

theorem lacksEnd_ended (line : List α) (ending : LineEnd) (rest : List α) :
    marks.lacksEnd (line ++ marks.spelled ending ++ rest) =
      marks.lacksEnd rest := by
  cases rest with
  | nil =>
      rw [List.append_nil, lacksEnd_append line (marks.spelled_ne_nil ending)]
      cases ending <;> simp [spelled, lacksEnd]
  | cons character rest =>
      exact lacksEnd_append _ (List.cons_ne_nil character rest)

theorem Stops.append (stops : marks.Stops ending rest)
    (apart : marks.goesOn (line ++ marks.spelled ending ++ rest) after =
      false) :
    marks.Stops ending (rest ++ after) := by
  cases rest with
  | nil =>
      rw [List.append_nil, goesOn_append line (marks.spelled_ne_nil ending)]
        at apart
      exact goesOn_spelled_iff.mp apart
  | cons character rest => exact stops

namespace Splits

/-- There are as many lines as ends, and one more if something follows the last
end. -/
theorem length_eq (splits : marks.Splits content lines) :
    lines.length = marks.endCount content + (marks.lacksEnd content).toNat := by
  induction splits with
  | nil => rfl
  | unended plain filled =>
      rw [plain.endCount_eq_zero, plain.lacksEnd_eq_true filled]
      rfl
  | ended ending plain stops later ih =>
      rw [endCount_ended plain stops, lacksEnd_ended, List.length_cons, ih]
      omega

/-- Content with an end behind its last line can be followed by other content,
unless the two make one end where they meet. -/
theorem append (splits : marks.Splits content lines)
    (also : marks.Splits after others)
    (isEnded : marks.lacksEnd content = false)
    (apart : marks.goesOn content after = false) :
    marks.Splits (content ++ after) (lines ++ others) := by
  induction splits with
  | nil => exact also
  | unended plain filled =>
      rw [plain.lacksEnd_eq_true filled] at isEnded
      cases isEnded
  | @ended line rest lines ending plain stops later ih =>
      rw [lacksEnd_ended] at isEnded
      have apartLater : marks.goesOn rest after = false := by
        cases rest with
        | nil => rfl
        | cons character rest =>
            rwa [goesOn_append _ (List.cons_ne_nil character rest)] at apart
      rw [List.append_assoc, List.cons_append]
      exact .ended ending plain (stops.append apart) (ih isEnded apartLater)

end Splits

/-- What is before ends with a line's end, to which what is after adds
nothing. -/
def EndsBefore (before after : List α) : Prop :=
  ∃ ending, marks.spelled ending <:+ before ∧ marks.Stops ending after

theorem endsBefore_iff : marks.EndsBefore before after ↔
    before ≠ [] ∧ marks.lacksEnd before = false ∧
    marks.goesOn before after = false := by
  constructor
  · intro ends
    obtain ⟨ending, ⟨front, rfl⟩, stops⟩ := ends
    have filled : marks.spelled ending ≠ [] := marks.spelled_ne_nil ending
    have isEnded : marks.lacksEnd (front ++ marks.spelled ending ++ []) =
        false :=
      lacksEnd_ended front ending []
    rw [List.append_nil] at isEnded
    refine ⟨List.append_ne_nil_of_right_ne_nil front filled, isEnded, ?_⟩
    rw [goesOn_append front filled]
    exact goesOn_spelled_iff.mpr stops
  · intro ⟨filled, isEnded, apart⟩
    obtain ⟨front, last, rfl⟩ :=
      (List.eq_nil_or_concat' before).resolve_left filled
    by_cases isFeed : last = marks.feed
    · exact ⟨.feed, ⟨front, by rw [isFeed]; rfl⟩, nofun⟩
    · have isCarriage : last = marks.carriage := by
        simpa [lacksEnd, isFeed] using isEnded
      refine ⟨.carriage, ⟨front, by rw [isCarriage]; rfl⟩, fun _ => ?_⟩
      simpa [goesOn, isCarriage] using apart

end LineMarks

open LineMarks

/-- The bytes that end lines. -/
def LineMarks.ofBytes : LineMarks UInt8 :=
  ⟨13, 10, by decide⟩

theorem splits_continueLine {byte : UInt8} {bytes : List UInt8}
    {lines : List (List UInt8)} (notCarriage : byte ≠ 13)
    (notFeed : byte ≠ 10) (splits : ofBytes.Splits bytes lines) :
    ofBytes.Splits (byte :: bytes) (continueLine byte lines) := by
  have longer {line : List UInt8} (plain : ofBytes.Plain line) :
      ofBytes.Plain (byte :: line) :=
    (plain_cons_iff ofBytes).mpr ⟨⟨notCarriage, notFeed⟩, plain⟩
  cases splits with
  | nil =>
      exact .unended (longer (plain_nil ofBytes)) (List.cons_ne_nil byte [])
  | unended plain => exact .unended (longer plain) (List.cons_ne_nil byte bytes)
  | ended ending plain stops later =>
      exact .ended ending (longer plain) stops later

theorem splits_splitLines (bytes : List UInt8) :
    ofBytes.Splits bytes (splitLines bytes) := by
  have empty : ofBytes.Plain [] := plain_nil ofBytes
  fun_induction splitLines bytes with
  | case1 => exact .nil
  | case2 rest ih => exact .ended .both empty nofun ih
  | case3 rest noFeed ih =>
      refine .ended .carriage empty (fun _ first => ?_) ih
      obtain ⟨others, rfl⟩ := List.head?_eq_some_iff.mp first
      exact noFeed others rfl
  | case4 rest ih => exact .ended .feed empty nofun ih
  | case5 byte rest _ notCarriage notFeed ih =>
      exact splits_continueLine notCarriage notFeed ih

theorem splits_iff_eq_splitLines {bytes : List UInt8}
    {lines : List (List UInt8)} :
    ofBytes.Splits bytes lines ↔ lines = splitLines bytes := by
  constructor
  · intro splits
    exact splits.unique (splits_splitLines bytes)
  · intro same
    rw [same]
    exact splits_splitLines bytes

/-- Where a map keeps the ends, it takes the lines of content to those of its
image. -/
theorem splitLines_map {α : Type} {marks : LineMarks α} {image : α → UInt8}
    (keeps : marks.Keeps ofBytes image) {content : List α}
    {lines : List (List α)} (splits : marks.Splits content lines) :
    splitLines (content.map image) = lines.map (List.map image) := by
  obtain ⟨originals, also, mapped⟩ :=
    keeps.exists_splits (splits_splitLines (content.map image))
  rw [← mapped, also.unique splits]

theorem length_splitLines (bytes : List UInt8) :
    (splitLines bytes).length =
      ofBytes.endCount bytes + (ofBytes.lacksEnd bytes).toNat :=
  (splits_splitLines bytes).length_eq

theorem splitLines_append {before after : List UInt8}
    (ends : ofBytes.EndsBefore before after) :
    splitLines (before ++ after) = splitLines before ++ splitLines after := by
  obtain ⟨-, isEnded, apart⟩ := endsBefore_iff.mp ends
  have splits :=
    (splits_splitLines before).append (splits_splitLines after) isEnded apart
  exact (splits_iff_eq_splitLines.mp splits).symm

/-- Where a line goes on, the join has one line less than the two contents
alone. -/
theorem endsBefore_of_splitLines_append {before after : List UInt8}
    (filled : before ≠ []) (alsoFilled : after ≠ [])
    (cut : splitLines (before ++ after) =
      splitLines before ++ splitLines after) :
    ofBytes.EndsBefore before after := by
  have counted := congrArg List.length cut
  rw [List.length_append, length_splitLines, length_splitLines,
    length_splitLines, lacksEnd_append before alsoFilled] at counted
  have ends := ofBytes.endCount_append before after
  have none : (ofBytes.lacksEnd before).toNat = 0 ∧
      (ofBytes.goesOn before after).toNat = 0 := by
    omega
  exact endsBefore_iff.mpr
    ⟨filled, none.imp Bool.toNat_eq_zero.mp Bool.toNat_eq_zero.mp⟩

/-- Cutting gives the only lines without ends inside that make the content
again, each with its end behind it.  Their number is that of the ends, and one
more if something follows the last end.  Two contents have the lines of their
join exactly if one is empty or an end stands between them that the second does
not extend. -/
theorem splitLines_by_ends (bytes : List UInt8) :
    (∀ lines, ofBytes.Splits bytes lines ↔ lines = splitLines bytes) ∧
      (∀ unit source, (Content.mk unit source bytes).lineCount =
        ofBytes.endCount bytes + (ofBytes.lacksEnd bytes).toNat) ∧
      ∀ after, splitLines (bytes ++ after) =
        splitLines bytes ++ splitLines after ↔
        bytes = [] ∨ after = [] ∨ ofBytes.EndsBefore bytes after := by
  refine ⟨fun _ => splits_iff_eq_splitLines, fun _ _ => length_splitLines bytes,
    fun after => ?_⟩
  constructor
  · intro cut
    by_cases empty : bytes = []
    · exact .inl empty
    · by_cases alsoEmpty : after = []
      · exact .inr (.inl alsoEmpty)
      · exact .inr (.inr (endsBefore_of_splitLines_append empty alsoEmpty cut))
  · intro parts
    rcases parts with rfl | rfl | ends
    · rfl
    · rw [List.append_nil, splitLines, List.append_nil]
    · exact splitLines_append ends

/-- A line feed before a carriage return is an end of its own, and so is a
carriage return before another one. -/
example : splitLines [10, 13, 13, 10, 97] = [[], [], [], [97]] := rfl

end QueryLint
