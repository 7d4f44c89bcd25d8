import QueryLint.Proofs.Text.Pieces
import QueryLint.Run.Processor

/-!
# Units of joined inputs

An input is made of its units and the delimiters between them, so that cutting
it and joining what comes of it undo each other.  Inputs of one batch can
therefore be joined to one input, and the runs over both take the same units in.
-/

namespace QueryLint

theorem splitUnits_eq_splitOn (input : Text) :
    splitUnits input = List.splitOn '|' input :=
  Text.splitOn_beq '|' input

theorem splitUnits_ne_nil (input : Text) : splitUnits input ≠ [] :=
  Text.splitOn_ne_nil _ input

theorem delimiter_not_mem_of_mem_splitUnits {input unit : Text}
    (member : unit ∈ splitUnits input) : '|' ∉ unit := by
  rw [splitUnits_eq_splitOn] at member
  exact Text.not_mem_of_mem_splitOn member

theorem intercalate_splitUnits (input : Text) :
    ['|'].intercalate (splitUnits input) = input := by
  rw [splitUnits_eq_splitOn, List.intercalate_splitOn]

theorem splitUnits_intercalate {units : List Text} (some : units ≠ [])
    (undivided : ∀ unit ∈ units, '|' ∉ unit) :
    splitUnits (['|'].intercalate units) = units := by
  rw [splitUnits_eq_splitOn, List.splitOn_intercalate '|' undivided some]

theorem splitUnits_append_delimiter (first second : Text) :
    splitUnits (first ++ '|' :: second) =
      splitUnits first ++ splitUnits second := by
  simp only [splitUnits_eq_splitOn, List.splitOn_append_cons_self]

theorem splitBatch_eq_splitUnits {batch : List Text} (some : batch ≠ []) :
    splitBatch batch = splitUnits (['|'].intercalate batch) := by
  induction batch with
  | nil => exact absurd rfl some
  | cons input others ih =>
      cases others with
      | nil => simp [splitBatch]
      | cons next rest =>
          have later := ih (List.cons_ne_nil next rest)
          rw [List.intercalate_cons_cons, List.append_assoc,
            List.singleton_append, splitUnits_append_delimiter, ← later]
          rfl

theorem Call.units_list {inputs : List String} (some : inputs ≠ []) :
    (list inputs).units = (query ("|".intercalate inputs)).units := by
  have texts : inputs.map String.toList ≠ [] := List.map_eq_nil_iff.not.mpr some
  rw [Call.units, Call.units, unitsOf, splitBatch_eq_splitUnits texts,
    String.toList_intercalate]
  rfl

/-- An input is cut into one unit or several without a delimiter, and these
joined are the input; units that are joined are cut at the same places again.
Cutting goes part by part on both sides of a delimiter.  A batch has the units
of its joined inputs, and a processor takes the same in for both. -/
theorem splitUnits_inverts_joining :
    (∀ input : Text, splitUnits input ≠ [] ∧
      (∀ unit ∈ splitUnits input, '|' ∉ unit) ∧
        ['|'].intercalate (splitUnits input) = input) ∧
      (∀ units : List Text, units ≠ [] → (∀ unit ∈ units, '|' ∉ unit) →
        splitUnits (['|'].intercalate units) = units) ∧
      (∀ first second : Text,
        splitUnits (first ++ ['|'] ++ second) =
          splitUnits first ++ splitUnits second) ∧
      (∀ batch : List Text, batch ≠ [] →
        splitBatch batch = splitUnits (['|'].intercalate batch)) ∧
      ∀ inputs : List String, inputs ≠ [] →
        let joined := Call.query ("|".intercalate inputs)
        (Call.list inputs).units = joined.units ∧
          ∀ processor : Processor,
            processor.taken (.list inputs) = processor.taken joined ∧
            processor.call (.list inputs) = processor.call joined := by
  refine ⟨fun input =>
    ⟨splitUnits_ne_nil input, fun _ => delimiter_not_mem_of_mem_splitUnits,
    intercalate_splitUnits input⟩, fun _ => splitUnits_intercalate,
    fun first second => ?_, fun _ => splitBatch_eq_splitUnits, ?_⟩
  · rw [List.append_assoc]
    exact splitUnits_append_delimiter first second
  · intro inputs some joined
    have units : (Call.list inputs).units = joined.units := Call.units_list some
    refine ⟨units, fun processor => ?_⟩
    have taken : processor.taken (.list inputs) = processor.taken joined := by
      rw [Processor.taken, Processor.taken, units]
    exact ⟨taken, by rw [Processor.call, Processor.call, units, taken]⟩

/-- Empty units at both ends and in the middle are kept, in one input and in
two. -/
theorem splitUnits_inverts_joining_of_empty_units :
    splitUnits "|a||b|".toList = ["", "a", "", "b", ""].map String.toList ∧
      splitBatch ["|a".toList, "|b|".toList] = splitUnits "|a||b|".toList ∧
      (Call.list ["|a", "|b|"]).units = (Call.query "|a||b|").units := by
  obtain ⟨-, cut, -, batch, calls⟩ := splitUnits_inverts_joining
  refine ⟨?_, ?_, ?_⟩
  · exact cut (["", "a", "", "b", ""].map String.toList) (by decide) (by decide)
  · exact batch ["|a".toList, "|b|".toList] (by decide)
  · exact (calls ["|a", "|b|"] (by decide)).1

end QueryLint
