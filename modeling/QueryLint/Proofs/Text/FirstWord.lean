import QueryLint.Proofs.Text.Blanks
import QueryLint.Proofs.Text.Lowering

/-!
# First words and keywords

The first word of a text ends at a comma or at white space.  A text is led by a
keyword if its first word is, because a keyword has no such character and each
of them ends a word.
-/

namespace QueryLint

namespace Text

/-- The character ends a word of a comment. -/
def isBreak (character : Char) : Bool :=
  character == ',' || isBlank character

/-- The characters of a text up to the first comma or white space, the white
space in front left out. -/
def firstWord (text : Text) : Text :=
  (trimStart text).takeWhile fun character => !isBreak character

/-- What follows the first word. -/
def afterFirstWord (text : Text) : Text :=
  (trimStart text).dropWhile fun character => !isBreak character

def IsLatin (text : Text) : Prop :=
  ∀ character ∈ text, character.toNat < 256

instance (text : Text) : Decidable (IsLatin text) :=
  List.decidableBAll (fun character : Char => character.toNat < 256) text

/-- The text begins with the keyword in any case, and the rest does not go on
with the keyword as a word. -/
def Leads (keyword rest text : Text) : Prop :=
  ∃ spelling, text = spelling ++ rest ∧ lower spelling = keyword ∧
    endsWord rest = true

variable {keyword text rest : Text}

theorem leads_iff :
    Leads keyword rest text ↔
      lower (text.take keyword.length) = keyword ∧
      rest = text.drop keyword.length ∧
      endsWord rest = true := by
  constructor
  · rintro ⟨spelling, rfl, rfl, ends⟩
    have length : (lower spelling).length = spelling.length := List.length_map _
    rw [length, List.take_left, List.drop_left]
    exact ⟨rfl, rfl, ends⟩
  · rintro ⟨spells, rfl, ends⟩
    exact ⟨text.take keyword.length, (List.take_append_drop _ _).symm, spells,
      ends⟩

instance (keyword rest text : Text) : Decidable (Leads keyword rest text) :=
  decidable_of_iff _ leads_iff.symm

theorem Leads.length_eq (leads : Leads keyword rest text) :
    keyword.length + rest.length = text.length := by
  obtain ⟨spelling, rfl, rfl, -⟩ := leads
  rw [lower, List.length_map, List.length_append]

theorem Leads.rest_eq {other : Text} (leads : Leads keyword rest text)
    (leadsOther : Leads keyword other text) : rest = other :=
  (leads_iff.mp leads).2.1.trans (leads_iff.mp leadsOther).2.1.symm

theorem Leads.exists_begun {opening : Text}
    (leads : Leads (opening ++ keyword) rest text) :
    ∃ begun between, text = begun ++ between ∧ lower begun = opening := by
  obtain ⟨spelling, rfl, spells, -⟩ := leads
  obtain ⟨begun, later, rfl, first, -⟩ := List.map_eq_append_iff.mp spells
  exact ⟨begun, later ++ rest, List.append_assoc _ _ _, first⟩

theorem leads_append_iff (begun between : Text) :
    Leads (lower begun ++ keyword) rest (begun ++ between) ↔
      Leads keyword rest between := by
  constructor
  · rintro ⟨spelling, split, spells, ends⟩
    obtain ⟨first, later, rfl, same, second⟩ := List.map_eq_append_iff.mp spells
    have lengths := congrArg List.length same
    rw [lower, List.length_map, List.length_map] at lengths
    rw [List.append_assoc] at split
    exact ⟨later, (List.append_inj split lengths.symm).2, second, ends⟩
  · rintro ⟨spelling, rfl, rfl, ends⟩
    exact ⟨begun ++ spelling, (List.append_assoc _ _ _).symm, List.map_append,
      ends⟩

theorem isWordChar_of_isBreak {character : Char}
    (breaks : isBreak character = true) :
    isWordChar character = false := by
  rcases Bool.or_eq_true_iff.mp breaks with comma | blank
  · rw [beq_iff_eq.mp comma]
    rfl
  · exact isWordChar_of_isBlank blank

/-- A break ends every word, so that nothing behind it matters. -/
theorem endsWord_append_dropWhile (ending text : Text) :
    endsWord (ending ++ text.dropWhile fun character => !isBreak character) =
      endsWord ending := by
  cases ending with
  | cons => rfl
  | nil =>
      cases after : text.dropWhile fun character => !isBreak character with
      | nil => rfl
      | cons character rest =>
          have stops :=
            List.head_dropWhile_not (fun character => !isBreak character)
              (show text.dropWhile _ ≠ [] by
                rw [after]; exact List.cons_ne_nil _ _)
          simp only [after, List.head_cons, Bool.not_eq_false'] at stops
          simp [endsWord, isWordChar_of_isBreak stops]

theorem isBreak_eq_false_of_lower {spelling : Text}
    (solid : (lower spelling).any isBreak = false) :
    ∀ character ∈ spelling, isBreak character = false := by
  intro character member
  have kept :=
    List.any_eq_false.mp solid character.toLower (List.mem_map_of_mem member)
  apply Bool.eq_false_iff.mpr
  intro breaks
  apply kept
  rcases Bool.or_eq_true_iff.mp breaks with comma | blank
  · rw [beq_iff_eq.mp comma]
    rfl
  · rw [isBreak, isBlank_toLower, blank, Bool.or_true]

/-- A keyword without a break begins the text if it begins the first word. -/
theorem leads_iff_takeWhile (solid : keyword.any isBreak = false) :
    Leads keyword rest text ↔
      ∃ ending, Leads keyword ending
        (text.takeWhile fun character => !isBreak character) ∧
        rest = ending ++ text.dropWhile fun character =>
          !isBreak character := by
  have kept : ∀ spelling, lower spelling = keyword →
      ∀ character ∈ spelling, (!isBreak character) = true := by
    rintro spelling rfl character member
    rw [isBreak_eq_false_of_lower solid character member, Bool.not_false]
  constructor
  · rintro ⟨spelling, rfl, spells, ends⟩
    refine ⟨rest.takeWhile fun character => !isBreak character,
      ⟨spelling, ?_, spells, ?_⟩, ?_⟩
    · exact List.takeWhile_append_of_pos (kept spelling spells)
    · rw [← endsWord_append_dropWhile _ rest, List.takeWhile_append_dropWhile,
        ends]
    · rw [List.dropWhile_append_of_pos (kept spelling spells),
        List.takeWhile_append_dropWhile]
  · rintro ⟨ending, ⟨spelling, split, spells, ends⟩, rfl⟩
    refine ⟨spelling, ?_, spells, ?_⟩
    · rw [← List.append_assoc, ← split, List.takeWhile_append_dropWhile]
    · rw [endsWord_append_dropWhile, ends]

theorem foldsTo_of_latin {character : Char} (latin : character.toNat < 256)
    (letter : Char) :
    foldsTo letter character = (character.toLower == letter) := by
  have notLongS : (character == '\u017f') = false := by
    apply beq_false_of_ne
    rintro rfl
    exact absurd latin (by decide)
  have notKelvin : (character == '\u212a') = false := by
    apply beq_false_of_ne
    rintro rfl
    exact absurd latin (by decide)
  simp [foldsTo, notLongS, notKelvin]

theorem afterKeyword?_eq_some_iff (latin : IsLatin text) :
    afterKeyword? keyword text = some rest ↔
      ∃ spelling, text = spelling ++ rest ∧ lower spelling = keyword := by
  induction keyword generalizing text with
  | nil => simp [afterKeyword?, lower]
  | cons letter keyword ih =>
      cases text with
      | nil => simp [afterKeyword?, lower]
      | cons character text =>
          obtain ⟨first, later⟩ := List.forall_mem_cons.mp latin
          rw [afterKeyword?, foldsTo_of_latin first]
          constructor
          · intro taken
            split at taken
            · next folds =>
                obtain ⟨spelling, rfl, spells⟩ := (ih later).mp taken
                refine ⟨character :: spelling, rfl, ?_⟩
                rw [lower, List.map_cons, beq_iff_eq.mp folds, ← spells, lower]
            · cases taken
          · rintro ⟨spelling, split, spells⟩
            cases spelling with
            | nil => cases spells
            | cons head spelling =>
                obtain ⟨rfl, rfl⟩ := List.cons.inj split
                obtain ⟨rfl, spellsRest⟩ := List.cons.inj spells
                rw [if_pos (beq_self_eq_true _), ih later]
                exact ⟨spelling, rfl, spellsRest⟩

end Text

end QueryLint
