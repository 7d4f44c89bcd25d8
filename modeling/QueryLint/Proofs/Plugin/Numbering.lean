import Mathlib.Data.Nat.Digits.Defs
import QueryLint.Content.Cursor
import QueryLint.Plugin.Dump
import QueryLint.Proofs.Content.Lines

/-!
# Numbered lines of a dump

Every line of a dump behind its header is a line of the content behind its
number.  The numbers take the same number of columns, because none of them has
more digits than the number of lines, so that the content can be read back from
its dump.
-/

namespace QueryLint.Dump

variable {count number : Nat}

theorem length_toDigits_le (bounded : number ≤ count) :
    (Nat.toDigits 10 number).length ≤ (Nat.toDigits 10 count).length := by
  have below (limit : Nat) :
      limit < 10 ^ (Nat.toDigits 10 count).length ↔
        (Nat.toDigits 10 limit).length ≤ (Nat.toDigits 10 count).length :=
    (Nat.length_toDigits_le_iff (by decide) Nat.length_toDigits_pos).symm
  have countFits : count < 10 ^ (Nat.toDigits 10 count).length :=
    (below count).mpr le_rfl
  exact (below number).mp (bounded.trans_lt countFits)

theorem numberWidth_eq (count : Nat) :
    numberWidth count = max 3 (Nat.toDigits 10 count).length := by
  rw [numberWidth, Nat.toString_eq_ofList_toDigits, String.length_ofList]

theorem alignRight_eq_leftpad (width number : Nat) :
    alignRight width number =
      List.leftpad width ' ' (Nat.toDigits 10 number) := by
  rw [alignRight, Nat.toString_eq_ofList_toDigits, String.toList_ofList]
  rfl

/-- What stands in front of a line of content. -/
def label (count number : Nat) : Text :=
  alignRight (numberWidth count) number ++ [' ', ' ']

theorem length_label (bounded : number ≤ count) :
    (label count number).length = numberWidth count + 2 := by
  have fits : (Nat.toDigits 10 number).length ≤ numberWidth count := by
    rw [numberWidth_eq]
    exact (length_toDigits_le bounded).trans (le_max_right 3 _)
  rw [label, List.length_append, alignRight_eq_leftpad, List.length_leftpad,
    max_eq_left fits]
  rfl

theorem feedless_label (count number : Nat) : '\n' ∉ label count number := by
  rw [label, alignRight_eq_leftpad, List.leftpad]
  simp only [List.mem_append, List.mem_replicate, not_or, not_and]
  refine ⟨⟨fun _ => by decide, fun digit => ?_⟩, by decide⟩
  exact absurd (Nat.isDigit_of_mem_toDigits (by decide) (by decide) digit)
    (by decide)

/-- The lines of a dump behind its header, without their ends. -/
def rows (lines : List Text) : List Text :=
  lines.mapIdx fun index line => label lines.length (index + 1) ++ line

theorem body_eq_flatMap_rows (lines : List Text) :
    body lines = (rows lines).flatMap fun row => row ++ ['\n'] := by
  rw [body, rows, List.mapIdx_eq_zipIdx_map, List.flatMap_map,
    List.zipIdx_eq_map_add, List.flatMap_map]
  simp only [numberedLine, label, Nat.add_comm 1]

theorem feedless_of_mem_rows {lines : List Text}
    (feedless : ∀ line ∈ lines, '\n' ∉ line) {row : Text}
    (member : row ∈ rows lines) : '\n' ∉ row := by
  obtain ⟨index, inside, rfl⟩ := List.mem_mapIdx.mp member
  exact List.not_mem_append (feedless_label _ _)
    (feedless _ (List.getElem_mem inside))

/-- The lines of content are what stands behind the labels, which have one
length. -/
theorem map_drop_rows (lines : List Text) :
    (rows lines).map (List.drop (numberWidth lines.length + 2)) = lines := by
  refine List.ext_getElem (by simp [rows]) fun index _ inside => ?_
  have length : (label lines.length (index + 1)).length =
      numberWidth lines.length + 2 :=
    length_label inside
  simp only [rows, List.getElem_map, List.getElem_mapIdx]
  exact List.drop_left' length

/-- An initialized plugin writes the header and as many lines as the content
has, each ended by a line feed and holding no other.  In front of each stand its
number, aligned in a column that is as wide as the number of lines and at least
three characters, and two spaces; all that has one length, and without it the
lines are those of the content. -/
theorem activate_numbers_lines {dump : Dump} (ready : dump.initialized = true)
    (sink : Sink) (view : UnitView) :
    let lines := (Cursor.start view.bytes).readLines.1
    let count := lines.length
    let width := max 3 (Nat.toDigits 10 count).length
    let front (index : Nat) : Text :=
      List.leftpad width ' ' (Nat.toDigits 10 (index + 1)) ++ [' ', ' ']
    let rows := lines.mapIdx fun index line => front index ++ line
    let header := "--- " ++ view.unit ++ " (" ++ toString count ++ " lines, " ++
      toString view.suppressions.directives.length ++
      " suppression directives) ---\n"
    let text := header ++ String.ofList (rows.flatMap fun row => row ++ ['\n'])
    (dump.activate sink view).2.2 = (sink.write text).2 ∧
      (sink.device = .working → dump.activate sink view =
        (.done, { dump with dumped := dump.dumped + 1 },
          { sink with written := sink.written ++ text })) ∧
      rows.length = count ∧
      (∀ row ∈ rows, '\n' ∉ row) ∧
      (∀ index, index < count → (front index).length = width + 2) ∧
      rows.map (List.drop (width + 2)) = lines := by
  intro lines count width front rows header text
  have widths : numberWidth count = width := numberWidth_eq count
  have fronts (index : Nat) : label count (index + 1) = front index := by
    rw [label, alignRight_eq_leftpad, widths]
  have sameRows : Dump.rows lines = rows :=
    congrArg lines.mapIdx (funext fun index => funext fun line => by
      rw [fronts])
  have rendered : render view = text :=
    calc
      render view = header ++ String.ofList (body lines) := rfl
      _ = text := by rw [body_eq_flatMap_rows, sameRows]
  refine ⟨?_, fun working => ?_, List.length_mapIdx, ?_,
    fun index inside => ?_, ?_⟩
  · rw [activate, if_pos ready, rendered]
    split
    next after written => rw [written]
    next reason after written => rw [written]
    next after written => rw [written]
  · rw [activate, if_pos ready, rendered, Sink.write, working]
  · rw [← sameRows]
    exact fun _ => feedless_of_mem_rows fun _ => feedless_of_mem_textLines
  · rw [← fronts, ← widths]
    exact length_label inside
  · rw [← sameRows, ← widths]
    exact map_drop_rows lines

/-- Content of three lines, each ended in its own way. -/
theorem activate_numbers_lines_of_mixed_ends :
    let bytes := encodeBytes "SELECT 1\r\n\rFROM t\n".toList
    ((Dump.mk true 4).activate (.onto .working)
      ⟨"a|b", .empty, bytes⟩).2.2.written =
      "--- a|b (3 lines, 0 suppression directives) ---\n" ++
        "  1  SELECT 1\n  2  \n  3  FROM t\n" := by
  intro bytes
  have ready : (Dump.mk true 4).initialized = true := rfl
  obtain ⟨-, written, -⟩ :=
    activate_numbers_lines ready (.onto .working) ⟨"a|b", .empty, bytes⟩
  rw [written rfl]
  decide +kernel

end QueryLint.Dump
