import Mathlib.Data.List.TakeWhile
import QueryLint.Text.Keyword

/-!
# White space at the end of a text

Trimming and matching keywords on a text with white space after it come down to
the same on the text alone: no white space character folds to a letter or
continues a word.
-/

namespace QueryLint.Text

theorem allBlank_append (first second : Text) :
    allBlank (first ++ second) = (allBlank first && allBlank second) :=
  List.all_append

/-- The white space characters, by their code points. -/
private def blankCharacters : List Char :=
  [9, 10, 11, 12, 13, 0x20, 0x85, 0xA0, 0x1680, 0x2000, 0x2001, 0x2002, 0x2003,
    0x2004, 0x2005, 0x2006, 0x2007, 0x2008, 0x2009, 0x200A, 0x2028, 0x2029,
    0x202F, 0x205F, 0x3000].map Char.ofNat

private theorem mem_blankCharacters {character : Char}
    (blank : isBlank character = true) : character ∈ blankCharacters := by
  refine List.mem_map.mpr ⟨character.toNat, ?_, Char.ofNat_toNat character⟩
  simp only [isBlank, Bool.or_eq_true, Bool.and_eq_true, decide_eq_true_eq,
    beq_iff_eq] at blank
  simp only [List.mem_cons, List.not_mem_nil, or_false]
  omega

theorem isWordChar_of_isBlank {character : Char}
    (blank : isBlank character = true) :
    isWordChar character = false := by
  have none : blankCharacters.any isWordChar = false := by decide +kernel
  simpa using List.any_eq_false.mp none character (mem_blankCharacters blank)

theorem isDecimal_of_isBlank {character : Char}
    (blank : isBlank character = true) :
    isDecimal character = false := by
  have none : blankCharacters.any isDecimal = false := by decide +kernel
  simpa using List.any_eq_false.mp none character (mem_blankCharacters blank)

/-- White space has one case, and only letters fold to `s` and `k` beside it. -/
theorem foldsTo_of_isBlank {letter character : Char}
    (solid : isBlank letter = false) (blank : isBlank character = true) :
    foldsTo letter character = false := by
  have each : (blankCharacters.all fun character =>
      character.toLower == character &&
      character != '\u017f' && character != '\u212a') = true := by
    decide +kernel
  have plain := List.all_eq_true.mp each character (mem_blankCharacters blank)
  simp only [Bool.and_eq_true, beq_iff_eq, bne_iff_ne] at plain
  obtain ⟨⟨lowered, notLongS⟩, notKelvin⟩ := plain
  have different : (character == letter) = false := by
    apply beq_false_of_ne
    rintro rfl
    rw [blank] at solid
    cases solid
  rw [foldsTo, lowered, different, beq_false_of_ne notLongS,
    beq_false_of_ne notKelvin]
  simp

theorem endsWord_append_of_allBlank {blanks : Text}
    (all : allBlank blanks = true) (text : Text) :
    endsWord (text ++ blanks) = endsWord text := by
  cases text with
  | cons character rest => rfl
  | nil =>
      cases blanks with
      | nil => rfl
      | cons blank others =>
          have first : isBlank blank = true :=
            List.all_eq_true.mp all blank List.mem_cons_self
          simp [endsWord, isWordChar_of_isBlank first]

/-- A keyword is found before white space if it is found without it. -/
theorem afterKeyword?_append_of_allBlank {keyword blanks : Text}
    (solid : keyword.any isBlank = false) (all : allBlank blanks = true)
    (text : Text) :
    afterKeyword? keyword (text ++ blanks) =
      (afterKeyword? keyword text).map (· ++ blanks) := by
  induction keyword generalizing text with
  | nil => simp [afterKeyword?]
  | cons letter keyword ih =>
      obtain ⟨solidLetter, solidKeyword⟩ := Bool.or_eq_false_iff.mp solid
      cases text with
      | cons character rest =>
          simp only [List.cons_append, afterKeyword?]
          split
          · exact ih solidKeyword rest
          · rfl
      | nil =>
          cases blanks with
          | nil => rfl
          | cons blank others =>
              have first : isBlank blank = true :=
                List.all_eq_true.mp all blank List.mem_cons_self
              simp [afterKeyword?, foldsTo_of_isBlank solidLetter first]

theorem trimStart_of_allBlank {text : Text} (all : allBlank text = true) :
    trimStart text = [] := by
  rw [trimStart, List.dropWhile_eq_nil_iff]
  exact List.all_eq_true.mp all

theorem trimStart_append {text : Text} (solid : allBlank text = false)
    (more : Text) :
    trimStart (text ++ more) = trimStart text ++ more := by
  induction text with
  | nil => cases solid
  | cons character rest ih =>
      rw [trimStart, trimStart, List.cons_append, List.dropWhile_cons,
        List.dropWhile_cons]
      split
      · next blank =>
          have later : allBlank rest = false := by
            simpa [allBlank, blank] using solid
          exact ih later
      · rfl

theorem trimEnd_of_allBlank {text : Text} (all : allBlank text = true) :
    trimEnd text = [] := by
  induction text with
  | nil => rfl
  | cons character rest ih =>
      obtain ⟨blank, others⟩ := Bool.and_eq_true_iff.mp all
      simp [trimEnd, ih others, blank]

theorem trimEnd_append_of_allBlank {blanks : Text}
    (all : allBlank blanks = true) (text : Text) :
    trimEnd (text ++ blanks) = trimEnd text := by
  induction text with
  | nil => exact trimEnd_of_allBlank all
  | cons character rest ih => rw [List.cons_append, trimEnd, trimEnd, ih]

/-- Trimming takes white space off the end and nothing else. -/
theorem exists_trimEnd_append (text : Text) :
    ∃ blanks, allBlank blanks = true ∧ trimEnd text ++ blanks = text := by
  induction text with
  | nil => exact ⟨[], rfl, rfl⟩
  | cons character rest ih =>
      obtain ⟨blanks, all, same⟩ := ih
      by_cases empty : ((trimEnd rest).isEmpty && isBlank character) = true
      · obtain ⟨nothing, blank⟩ := Bool.and_eq_true_iff.mp empty
        rw [List.isEmpty_iff.mp nothing, List.nil_append] at same
        refine ⟨character :: blanks, ?_, by simp [trimEnd, empty, same]⟩
        exact Bool.and_eq_true_iff.mpr ⟨blank, all⟩
      · exact ⟨blanks, all, by simp [trimEnd, empty, same]⟩

theorem trimEnd_trimEnd (text : Text) :
    trimEnd (trimEnd text) = trimEnd text := by
  obtain ⟨blanks, all, same⟩ := exists_trimEnd_append text
  have trimmed := trimEnd_append_of_allBlank all (trimEnd text)
  rw [same] at trimmed
  exact trimmed.symm

theorem allBlank_trimEnd (text : Text) :
    allBlank (trimEnd text) = allBlank text := by
  obtain ⟨blanks, all, same⟩ := exists_trimEnd_append text
  have whole := allBlank_append (trimEnd text) blanks
  rw [same, all, Bool.and_true] at whole
  exact whole.symm

theorem trimEnd_ne_nil {text : Text} (solid : allBlank text = false) :
    trimEnd text ≠ [] := by
  intro empty
  rw [← allBlank_trimEnd, empty] at solid
  cases solid

/-- Trimming the end of a text stops at its last part if that is not white
space. -/
theorem trimEnd_append {text : Text} (solid : allBlank text = false)
    (before : Text) :
    trimEnd (before ++ text) = before ++ trimEnd text := by
  induction before with
  | nil => rfl
  | cons character before ih =>
      rw [List.cons_append, trimEnd, ih]
      simp [trimEnd_ne_nil solid]

theorem trimEnd_concat (text : Text) (character : Char) :
    trimEnd (text ++ [character]) =
      if isBlank character then trimEnd text else text ++ [character] := by
  cases blank : isBlank character with
  | true =>
      rw [trimEnd_append_of_allBlank (by simp [allBlank, blank])]
      rfl
  | false =>
      rw [trimEnd_append (by simp [allBlank, blank])]
      simp [trimEnd, blank]

theorem byteLength_append (first second : Text) :
    byteLength (first ++ second) = byteLength first + byteLength second := by
  have summed : ∀ (text : Text) (total : Nat),
      text.foldl (fun total character => total + character.utf8Size) total =
        total + byteLength text := by
    intro text
    induction text with
    | nil => exact fun _ => rfl
    | cons character rest ih =>
        intro total
        rw [byteLength, List.foldl_cons, List.foldl_cons, ih, ih]
        omega
  rw [byteLength, List.foldl_append, summed]
  rfl

end QueryLint.Text
