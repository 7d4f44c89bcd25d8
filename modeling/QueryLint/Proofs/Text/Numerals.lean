import QueryLint.Proofs.Text.Counts

/-!
# Which texts are counts

A numeral is written in decimal digits, with a plus sign in front or without,
and any number of zeros may lead it.  A text is read as a count by the numeral
that is left of it without white space, of whatever length: `Text.Writes` says
which number that is, and the count is the number if it is not zero and fits
into 64 bits.
-/

namespace QueryLint

namespace Text

variable {text digits : Text} {number : Nat}

/-- The value of decimal digits by their places, of which the last is that of
the ones. -/
def placeValue (digits : Text) : Nat :=
  Nat.ofDigits 10 (digits.reverse.map fun digit => digit.toNat - '0'.toNat)

/-- The text is decimal digits, at least one, behind a plus sign or none. -/
def IsNumeral (text : Text) (number : Nat) : Prop :=
  ∃ sign digits, (sign = [] ∨ sign = ['+']) ∧ sign ++ digits = text ∧
    digits ≠ [] ∧
    (∀ digit ∈ digits, '0' ≤ digit ∧ digit ≤ '9') ∧ placeValue digits = number

/-- Without the white space around it, the text is a numeral of the number. -/
def Writes (text : Text) (number : Nat) : Prop :=
  ∃ core, Trimmed text core ∧ IsNumeral core number

theorem isDigit_iff {character : Char} :
    character.isDigit = true ↔ '0' ≤ character ∧ character ≤ '9' := by
  simp [Char.isDigit, Char.le_def]

/-- Reading digits from the left comes to their value by places. -/
theorem foldl_digits_eq_placeValue (digits : Text) :
    digits.foldl (fun number digit => 10 * number + (digit.toNat - 48)) 0 =
      placeValue digits := by
  induction digits using List.reverseRecOn with
  | nil => rfl
  | append_singleton digits last ih =>
      rw [List.foldl_append, ih, placeValue, placeValue, List.reverse_append,
        List.map_append, List.reverse_singleton, List.map_singleton,
        List.singleton_append, Nat.ofDigits_cons, Nat.add_comm]
      rfl

theorem decimal?_eq_some_iff :
    decimal? digits = some number ↔
      digits ≠ [] ∧ (∀ digit ∈ digits, '0' ≤ digit ∧ digit ≤ '9') ∧
        placeValue digits = number := by
  rw [decimal?, foldl_digits_eq_placeValue]
  simp only [← isDigit_iff, ← List.all_eq_true]
  cases digits with
  | nil => simp
  | cons first rest =>
      cases (first :: rest).all Char.isDigit with
      | false => simp
      | true => simp

theorem exists_sign (text : Text) :
    ∃ sign, (sign = [] ∨ sign = ['+']) ∧ sign ++ skipPlus text = text := by
  unfold skipPlus
  split
  next digits => exact ⟨['+'], Or.inr rfl, rfl⟩
  next => exact ⟨[], Or.inl rfl, rfl⟩

theorem decimal?_skipPlus_eq_some_iff :
    decimal? (skipPlus text) = some number ↔ IsNumeral text number := by
  rw [decimal?_eq_some_iff]
  constructor
  · intro read
    obtain ⟨sign, optional, signed⟩ := exists_sign text
    exact ⟨sign, skipPlus text, optional, signed, read⟩
  · rintro ⟨sign, digits, unsigned | signed, rfl, some, decimal, value⟩
    · subst unsigned
      have plain : skipPlus digits = digits :=
        skipPlus_of_digits fun digit member =>
          isDigit_iff.mpr (decimal digit member)
      rw [List.nil_append, plain]
      exact ⟨some, decimal, value⟩
    · subst signed
      exact ⟨some, decimal, value⟩

theorem writes_iff :
    Writes text number ↔ decimal? (skipPlus (trim text)) = some number := by
  simp only [decimal?_skipPlus_eq_some_iff, Writes, ← trim_eq_iff,
    exists_eq_left']

theorem unsigned?_eq_some_iff :
    unsigned? text = some number ↔ Writes text number ∧ number < 2 ^ 64 := by
  rw [writes_iff, unsigned?]
  cases decimal? (skipPlus (trim text)) with
  | none => simp
  | some found =>
      simp only [Option.some.injEq]
      change (if found < 2 ^ 64 then some found else none) = some number ↔ _
      split
      next fits =>
        rw [Option.some.injEq, iff_self_and]
        rintro rfl
        exact fits
      next exceeds =>
        simp only [reduceCtorEq, false_iff, not_and]
        rintro rfl
        exact exceeds

end Text

open Text (Writes)

/-- A text is read as a count if it writes a number other than zero that fits
into 64 bits, and as that number.  Zero is told apart, and any other text is
quoted as it is. -/
theorem positiveCount_decided_by_numeral (text : String) :
    (∀ number, positiveCount text = .ok number ↔
        (1 ≤ number ∧ number ≤ 2 ^ 64 - 1) ∧ Writes text.toList number) ∧
      (positiveCount text = .error .zeroCount ↔ Writes text.toList 0) ∧
      (positiveCount text = .error (.notCount text) ↔
        ¬ ∃ number, number < 2 ^ 64 ∧ Writes text.toList number) ∧
      SettingError.zeroCount.message = "Value must be greater than 0" ∧
      (SettingError.notCount text).message =
        "'" ++ text ++ "' is not a valid positive integer" := by
  refine ⟨fun number => ?_, ?_, ?_, rfl, rfl⟩
  · rw [positiveCount_eq_ok_iff, Text.unsigned?_eq_some_iff]
    constructor
    · rintro ⟨positive, writes, fits⟩
      exact ⟨⟨positive, by omega⟩, writes⟩
    · rintro ⟨⟨positive, fits⟩, writes⟩
      exact ⟨positive, writes, by omega⟩
  · rw [positiveCount_eq_zeroCount_iff, Text.unsigned?_eq_some_iff]
    exact and_iff_left (by decide)
  · rw [positiveCount_eq_notCount_iff, Option.eq_none_iff_forall_ne_some]
    simp only [ne_eq, Text.unsigned?_eq_some_iff, not_exists, and_comm]

example :
    positiveCount "\u2003+00018446744073709551615\n" =
      .ok 18446744073709551615 := by
  decide +kernel

end QueryLint
