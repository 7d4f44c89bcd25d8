import QueryLint.Text.Keyword

/-!
# Letters in lower case

Lowering replaces the letters `A` to `Z` by the letters `a` to `z` and keeps
every other character, so that it makes no sign and no white space of anything
else.  Whatever reads a text by words, keywords and white space reads the
lowered text in the same way.
-/

namespace QueryLint.Text

private theorem toLower_cases (character : Char) :
    character.toLower = character ∨
      65 ≤ character.toNat ∧ character.toNat ≤ 90 ∧
        character.toLower.toNat = character.toNat + 32 := by
  have bounds : ('A'.val ≤ character.val ∧ character.val ≤ 'Z'.val) ↔
      65 ≤ character.toNat ∧ character.toNat ≤ 90 := Iff.rfl
  by_cases upper : 'A'.val ≤ character.val ∧ character.val ≤ 'Z'.val
  · obtain ⟨atLeast, atMost⟩ := bounds.mp upper
    refine Or.inr ⟨atLeast, atMost, ?_⟩
    unfold Char.toLower
    rw [dif_pos upper]
    change (character.val + 32).toNat = character.val.toNat + 32
    have small : character.val.toNat ≤ 90 := atMost
    rw [UInt32.toNat_add]
    change (character.val.toNat + 32) % 4294967296 = _
    omega
  · unfold Char.toLower
    rw [dif_neg upper]
    exact Or.inl rfl

/-- Only a letter is lowered to another character. -/
theorem eq_of_toLower_eq {character sign : Char}
    (lowered : character.toLower = sign)
    (notLetter : sign.toNat < 97 ∨ 122 < sign.toNat) :
    character = sign := by
  rcases toLower_cases character with same | ⟨atLeast, atMost, moved⟩
  · exact same.symm.trans lowered
  · rw [lowered] at moved
    omega

theorem exists_of_lower_eq_cons {sign : Char} {text after : Text}
    (lowered : lower text = sign :: after)
    (notLetter : sign.toNat < 97 ∨ 122 < sign.toNat) :
    ∃ rest, text = sign :: rest := by
  cases text with
  | nil => cases lowered
  | cons character rest =>
      obtain ⟨isSign, -⟩ := List.cons.inj lowered
      exact ⟨rest, by rw [eq_of_toLower_eq isSign notLetter]⟩

@[simp] theorem toLower_toLower (character : Char) :
    character.toLower.toLower = character.toLower := by
  rcases toLower_cases character.toLower with same | ⟨atLeast, atMost, -⟩
  · exact same
  · rcases toLower_cases character with same | ⟨fromUpper, -, moved⟩
    · rw [same, same]
    · omega

@[simp] theorem lower_lower (text : Text) :
    lower (lower text) = lower text := by
  rw [lower, lower, List.map_map]
  exact List.map_congr_left fun character _ => toLower_toLower character

private theorem isBlank_eq_false_of_letter {character : Char}
    (atLeast : 65 ≤ character.toNat) (atMost : character.toNat ≤ 122) :
    isBlank character = false := by
  apply Bool.eq_false_iff.mpr
  intro blank
  simp only [isBlank, Bool.or_eq_true, Bool.and_eq_true, decide_eq_true_eq,
    beq_iff_eq] at blank
  omega

@[simp] theorem isBlank_toLower (character : Char) :
    isBlank character.toLower = isBlank character := by
  rcases toLower_cases character with same | ⟨atLeast, atMost, moved⟩
  · rw [same]
  · rw [isBlank_eq_false_of_letter (by omega) (by omega),
      isBlank_eq_false_of_letter atLeast (by omega)]

/-- What holds of the 26 letters `A` to `Z` and of every character that lowering
keeps holds of all characters. -/
private theorem of_upperCase {property : Char → Prop}
    (kept : ∀ character, character.toLower = character → property character)
    (letters : ∀ index ∈ List.range 26, property (Char.ofNat (65 + index)))
    (character : Char) : property character := by
  rcases toLower_cases character with same | ⟨atLeast, atMost, -⟩
  · exact kept character same
  · have counted :=
      letters (character.toNat - 65) (List.mem_range.mpr (by omega))
    rwa [Nat.add_sub_cancel' atLeast, Char.ofNat_toNat] at counted

@[simp] theorem isWordChar_toLower (character : Char) :
    isWordChar character.toLower = isWordChar character :=
  of_upperCase (fun _ same => congrArg isWordChar same) (by decide) character

@[simp] theorem isDecimal_toLower (character : Char) :
    isDecimal character.toLower = isDecimal character :=
  of_upperCase (fun _ same => congrArg isDecimal same) (by decide) character

@[simp] theorem utf8Size_toLower (character : Char) :
    character.toLower.utf8Size = character.utf8Size :=
  of_upperCase (fun _ same => congrArg Char.utf8Size same) (by decide) character

/-- Lowering makes a sign of nothing but the sign. -/
theorem toLower_beq {sign : Char}
    (notLetter : sign.toNat < 97 ∨ 122 < sign.toNat)
    (kept : sign.toLower = sign) (character : Char) :
    (character.toLower == sign) = (character == sign) := by
  rw [Bool.eq_iff_iff, beq_iff_eq, beq_iff_eq]
  constructor
  · exact fun lowered => eq_of_toLower_eq lowered notLetter
  · rintro rfl
    exact kept

private theorem of_lowerCase {property : Char → Prop}
    (letters : ∀ index ∈ List.range 26, property (Char.ofNat (97 + index)))
    (letter : Char) (isLetter : letter.isLower = true) : property letter := by
  obtain ⟨atLeast, atMost⟩ : 97 ≤ letter.toNat ∧ letter.toNat ≤ 122 :=
    ((Bool.and_eq_true _ _).mp isLetter).imp of_decide_eq_true of_decide_eq_true
  have counted := letters (letter.toNat - 97) (List.mem_range.mpr (by omega))
  rwa [Nat.add_sub_cancel' atLeast, Char.ofNat_toNat] at counted

/-- A letter is the lower case of its two cases and of nothing else. -/
theorem toLower_eq_iff {letter : Char} (isLetter : letter.isLower = true)
    {character : Char} :
    character.toLower = letter ↔
      character = letter ∨ character = letter.toUpper := by
  have raised : ∀ character : Char, character = character.toLower ∨
      character = character.toLower.toUpper :=
    of_upperCase (fun _ same => Or.inl same.symm) (by decide)
  have lowered : ∀ letter : Char, letter.isLower = true →
      letter.toLower = letter ∧ letter.toUpper.toLower = letter :=
    of_lowerCase (by decide)
  constructor
  · rintro rfl
    exact raised character
  · rintro (rfl | rfl)
    · exact (lowered character isLetter).1
    · exact (lowered letter isLetter).2

/-- What is read as a letter: its two cases, the long s for `s` and the Kelvin
sign for `k`. -/
theorem foldsTo_iff {letter : Char} (isLetter : letter.isLower = true)
    {character : Char} :
    foldsTo letter character = true ↔
      character = letter ∨ character = letter.toUpper ∨
        letter = 's' ∧ character = '\u017f' ∨
        letter = 'k' ∧ character = '\u212a' := by
  simp only [foldsTo, Bool.or_eq_true, Bool.and_eq_true, beq_iff_eq,
    toLower_eq_iff isLetter, or_assoc]

@[simp] theorem foldsTo_toLower (letter character : Char) :
    foldsTo letter character.toLower = foldsTo letter character := by
  have longS : (character.toLower == '\u017f') = (character == '\u017f') :=
    toLower_beq (by decide) (by decide) character
  have kelvin : (character.toLower == '\u212a') = (character == '\u212a') :=
    toLower_beq (by decide) (by decide) character
  rw [foldsTo, foldsTo, toLower_toLower, longS, kelvin]

theorem contains_lower {sign : Char}
    (notLetter : sign.toNat < 97 ∨ 122 < sign.toNat)
    (kept : sign.toLower = sign) (text : Text) :
    (lower text).contains sign = text.contains sign := by
  rw [Bool.eq_iff_iff, List.contains_iff_mem, List.contains_iff_mem]
  constructor
  · intro member
    obtain ⟨character, member, lowered⟩ := List.mem_map.mp member
    exact eq_of_toLower_eq lowered notLetter ▸ member
  · exact fun member => List.mem_map.mpr ⟨sign, member, kept⟩

theorem lower_eq_singleton_iff {sign : Char}
    (notLetter : sign.toNat < 97 ∨ 122 < sign.toNat)
    (kept : sign.toLower = sign) {text : Text} :
    lower text = [sign] ↔ text = [sign] := by
  constructor
  · intro lowered
    obtain ⟨rest, rfl⟩ := exists_of_lower_eq_cons lowered notLetter
    rw [List.map_eq_nil_iff.mp (List.cons.inj lowered).2]
  · rintro rfl
    exact congrArg (fun sign => [sign]) kept

@[simp] theorem allBlank_lower (text : Text) :
    allBlank (lower text) = allBlank text := by
  rw [allBlank, allBlank, lower, List.all_map]
  exact congrArg (List.all text) (funext isBlank_toLower)

@[simp] theorem trimStart_lower (text : Text) :
    trimStart (lower text) = lower (trimStart text) := by
  rw [trimStart, trimStart, lower, List.dropWhile_map]
  exact congrArg (fun isBlank => lower (text.dropWhile isBlank))
    (funext isBlank_toLower)

@[simp] theorem trimEnd_lower (text : Text) :
    trimEnd (lower text) = lower (trimEnd text) := by
  induction text with
  | nil => rfl
  | cons character rest ih =>
      change trimEnd (character.toLower :: lower rest) = _
      rw [trimEnd, trimEnd, ih, isBlank_toLower, lower, List.isEmpty_map]
      split
      · rfl
      · rfl

@[simp] theorem endsWord_lower (text : Text) :
    endsWord (lower text) = endsWord text := by
  cases text with
  | nil => rfl
  | cons character rest => exact congrArg not (isWordChar_toLower character)

@[simp] theorem byteLength_lower (text : Text) :
    byteLength (lower text) = byteLength text := by
  simp only [byteLength, lower, List.foldl_map, utf8Size_toLower]

@[simp] theorem afterKeyword?_lower (keyword text : Text) :
    afterKeyword? keyword (lower text) =
      (afterKeyword? keyword text).map lower := by
  induction keyword generalizing text with
  | nil => rfl
  | cons letter keyword ih =>
      cases text with
      | nil => rfl
      | cons character text =>
          change afterKeyword? (letter :: keyword)
            (character.toLower :: lower text) = _
          rw [afterKeyword?, afterKeyword?, foldsTo_toLower, ih]
          split
          · rfl
          · rfl

theorem splitOn_lower {isSeparator : Char → Bool}
    (caseless : ∀ character,
      isSeparator character.toLower = isSeparator character)
    (text : Text) :
    splitOn isSeparator (lower text) =
      (splitOn isSeparator text).map lower := by
  induction text with
  | nil => rfl
  | cons character rest ih =>
      change splitOn isSeparator (character.toLower :: lower rest) = _
      rw [splitOn, splitOn, ih, caseless]
      cases splitOn isSeparator rest with
      | nil => rfl
      | cons piece pieces =>
          cases isSeparator character with
          | true => rfl
          | false => rfl

end QueryLint.Text
