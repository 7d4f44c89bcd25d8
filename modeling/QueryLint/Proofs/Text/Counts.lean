import Mathlib.Data.Nat.Digits.Defs
import QueryLint.Config.Error
import QueryLint.Proofs.Text.Pieces

/-!
# Texts of positive counts

A positive count that fits into 64 bits is written by its decimal digits, and no
other number is read from a text.
-/

namespace QueryLint

namespace Text

variable {text : Text}

/-- A text without white space has nothing to trim. -/
theorem trim_of_solid (solid : ∀ character ∈ text, isBlank character = false) :
    trim text = text := by
  have trimmed : Trimmed text text := trimmed_self
    (fun character first => solid character (List.mem_of_mem_head? first))
    fun character last => solid character (List.mem_of_mem_getLast? last)
  exact trimmed.trim_eq

theorem isBlank_of_isDigit {character : Char}
    (digit : character.isDigit = true) :
    isBlank character = false := by
  have bounds : 48 ≤ character.toNat ∧ character.toNat ≤ 57 :=
    Char.isDigit_iff_toNat.mp digit
  simp only [isBlank, Bool.or_eq_false_iff, Bool.and_eq_false_iff,
    decide_eq_false_iff_not, beq_eq_false_iff_ne]
  omega

theorem trim_of_digits (digits : ∀ character ∈ text, character.isDigit = true) :
    trim text = text :=
  trim_of_solid fun character member =>
    isBlank_of_isDigit (digits character member)

theorem skipPlus_of_digits
    (digits : ∀ character ∈ text, character.isDigit = true) :
    skipPlus text = text := by
  unfold skipPlus
  split
  · exact absurd (digits '+' List.mem_cons_self) (by decide)
  · rfl

theorem decimal?_toDigits (number : Nat) :
    decimal? (Nat.toDigits 10 number) = some number := by
  have digits : (Nat.toDigits 10 number).all Char.isDigit = true :=
    List.all_eq_true.mpr fun _ =>
      Nat.isDigit_of_mem_toDigits (by decide) (by decide)
  have some : (Nat.toDigits 10 number).isEmpty = false :=
    List.isEmpty_eq_false_iff.mpr Nat.toDigits_ne_nil
  have read :=
    Nat.ofDigitChars_toDigits (n := number) (show 1 < 10 by decide) (by decide)
  simp only [decimal?, digits, some, Bool.not_true, Bool.or_self,
    Bool.false_eq_true, if_false]
  exact congrArg Option.some read

theorem unsigned?_toDigits {number : Nat} (fits : number < UInt64.size) :
    unsigned? (Nat.toDigits 10 number) = some number := by
  have digits : ∀ character ∈ Nat.toDigits 10 number,
      character.isDigit = true :=
    fun _ => Nat.isDigit_of_mem_toDigits (by decide) (by decide)
  rw [unsigned?, trim_of_digits digits, skipPlus_of_digits digits,
    decimal?_toDigits]
  exact if_pos fits

theorem lt_of_unsigned?_eq_some {number : Nat}
    (read : unsigned? text = some number) :
    number < UInt64.size := by
  unfold unsigned? at read
  split at read
  · split at read
    · next fits =>
        cases read
        exact fits
    · cases read
  · cases read

end Text

theorem positiveCount_eq_ok_iff {text : String} {number : Nat} :
    positiveCount text = .ok number ↔
      0 < number ∧ Text.unsigned? text.toList = some number := by
  unfold positiveCount
  cases Text.unsigned? text.toList with
  | none => simp
  | some found =>
      cases found with
      | zero => simp; omega
      | succ below => simp; omega

theorem positiveCount_eq_zeroCount_iff {text : String} :
    positiveCount text = .error .zeroCount ↔
      Text.unsigned? text.toList = some 0 := by
  rw [positiveCount]
  rcases Text.unsigned? text.toList with _ | _ | number <;> simp

theorem positiveCount_eq_notCount_iff {text : String} :
    positiveCount text = .error (.notCount text) ↔
      Text.unsigned? text.toList = none := by
  rw [positiveCount]
  rcases Text.unsigned? text.toList with _ | _ | number <;> simp

/-- The numbers that texts write. -/
theorem exists_positiveCount_iff {number : Nat} :
    (∃ text, positiveCount text = .ok number) ↔
      0 < number ∧ number < UInt64.size := by
  constructor
  · rintro ⟨text, read⟩
    obtain ⟨positive, written⟩ := positiveCount_eq_ok_iff.mp read
    exact ⟨positive, Text.lt_of_unsigned?_eq_some written⟩
  · rintro ⟨positive, fits⟩
    refine ⟨String.ofList (Nat.toDigits 10 number),
      positiveCount_eq_ok_iff.mpr ⟨positive, ?_⟩⟩
    rw [String.toList_ofList, Text.unsigned?_toDigits fits]

end QueryLint
