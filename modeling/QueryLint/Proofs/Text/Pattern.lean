import Mathlib.Computability.Language
import Mathlib.Data.List.TakeWhile
import QueryLint.Text.Keyword

/-!
# Patterns and what they leave of a text

A pattern stands for a set of texts.  Matching it at the start of a text tries
one way after the other, longer runs and earlier alternatives first, and the
ways that succeed are known by what they leave of the text.
`Pattern.mem_choices_iff` says that trying misses no way.  A step that takes a
text of the pattern and tries nothing else is what `Pattern.Takes` is about.
-/

namespace QueryLint

/-- A pattern built from classes of characters. -/
inductive Pattern where
  | empty
  | one (isMember : Char → Bool)
  | run (isMember : Char → Bool)
  | seq (first second : Pattern)
  | either (first second : Pattern)

namespace Pattern

/-- The texts that the pattern matches as a whole.  A run has one character or
more. -/
def language : Pattern → Language Char
  | empty => 1
  | one isMember =>
      {text | ∃ character, isMember character = true ∧ text = [character]}
  | run isMember =>
      {text | text ≠ [] ∧ ∀ character ∈ text, isMember character = true}
  | seq first second => first.language * second.language
  | either first second => first.language + second.language

theorem language_seq_assoc (first second third : Pattern) :
    (seq first (seq second third)).language =
      (seq (seq first second) third).language :=
  (mul_assoc _ _ _).symm

/-- What runs of one character or more leave of a text, the longest run
first. -/
def runChoices (isMember : Char → Bool) : Text → List Text
  | [] => []
  | character :: rest =>
      if isMember character then runChoices isMember rest ++ [rest] else []

/-- What matches at the start of a text leave of it, in the order in which they
are tried. -/
def choices : Pattern → Text → List Text
  | empty, text => [text]
  | one _, [] => []
  | one isMember, character :: rest => if isMember character then [rest] else []
  | run isMember, text => runChoices isMember text
  | seq first second, text => (first.choices text).flatMap second.choices
  | either first second, text => first.choices text ++ second.choices text

/-- The classes of which a pattern is built. -/
def classes : Pattern → List (Char → Bool)
  | empty => []
  | one isMember => [isMember]
  | run isMember => [isMember]
  | seq first second => first.classes ++ second.classes
  | either first second => first.classes ++ second.classes

/-- A word in any case of its letters. -/
def word : (keyword : Text) → Pattern
  | [] => empty
  | letter :: keyword => seq (one (Text.foldsTo letter)) (word keyword)

/-- The pattern or nothing, where the pattern is tried first. -/
def optional (pattern : Pattern) : Pattern :=
  either pattern empty

theorem mem_runChoices_iff {isMember : Char → Bool} {text rest : Text} :
    rest ∈ runChoices isMember text ↔
      ∃ part ∈ (run isMember).language, part ++ rest = text := by
  induction text with
  | nil =>
      constructor
      · intro member
        cases member
      · intro split
        obtain ⟨part, ⟨holds, -⟩, whole⟩ := split
        exact absurd (List.append_eq_nil_iff.mp whole).1 holds
  | cons character text ih =>
      rw [runChoices]
      constructor
      · intro member
        split at member
        · next first =>
            rcases List.mem_append.mp member with longer | last
            · obtain ⟨part, ⟨-, all⟩, rfl⟩ := ih.mp longer
              exact ⟨character :: part, ⟨List.cons_ne_nil _ _,
                List.forall_mem_cons.mpr ⟨first, all⟩⟩, rfl⟩
            · rw [List.mem_singleton.mp last]
              exact ⟨[character], ⟨List.cons_ne_nil _ _, by simpa using first⟩,
                rfl⟩
        · cases member
      · intro split
        obtain ⟨part, ⟨holds, all⟩, whole⟩ := split
        cases part with
        | nil => exact absurd rfl holds
        | cons head part =>
            obtain ⟨rfl, rest⟩ := List.cons.inj whole
            obtain ⟨first, others⟩ := List.forall_mem_cons.mp all
            rw [if_pos first]
            apply List.mem_append.mpr
            cases part with
            | nil => exact Or.inr (by simpa using rest)
            | cons second part =>
                left
                exact ih.mpr ⟨second :: part, ⟨List.cons_ne_nil _ _, others⟩,
                  rest⟩

/-- What the tries leave is what is behind some text of the pattern. -/
theorem mem_choices_iff {pattern : Pattern} {text rest : Text} :
    rest ∈ pattern.choices text ↔
      ∃ part ∈ pattern.language, part ++ rest = text := by
  induction pattern generalizing text rest with
  | empty => simp [choices, language, Language.mem_one, eq_comm]
  | one isMember =>
      cases text with
      | nil =>
          constructor
          · intro member
            cases member
          · intro split
            obtain ⟨part, ⟨head, -, rfl⟩, whole⟩ := split
            cases whole
      | cons character text =>
          simp only [choices, language]
          constructor
          · intro member
            split at member
            · next first =>
                rw [List.mem_singleton.mp member]
                exact ⟨[character], ⟨character, first, rfl⟩, rfl⟩
            · cases member
          · intro split
            obtain ⟨part, ⟨head, first, rfl⟩, whole⟩ := split
            obtain ⟨rfl, rfl⟩ := List.cons.inj whole
            simp [first]
  | run isMember => exact mem_runChoices_iff
  | seq first second ihFirst ihSecond =>
      simp only [choices, language, List.mem_flatMap, Language.mem_mul, ihFirst,
        ihSecond]
      constructor
      · intro split
        obtain ⟨between, ⟨part, inFirst, rfl⟩, other, inSecond, rfl⟩ := split
        exact ⟨part ++ other, ⟨part, inFirst, other, inSecond, rfl⟩,
          List.append_assoc _ _ _⟩
      · intro split
        obtain ⟨whole, ⟨part, inFirst, other, inSecond, rfl⟩, rfl⟩ := split
        exact ⟨other ++ rest, ⟨part, inFirst, (List.append_assoc _ _ _).symm⟩,
          other, inSecond, rfl⟩
  | either first second ihFirst ihSecond =>
      simp only [choices, language, List.mem_append, Language.mem_add, ihFirst,
        ihSecond, or_and_right, exists_or]

theorem mem_word_cons_iff {letter : Char} {keyword text : Text} :
    text ∈ (word (letter :: keyword)).language ↔
      ∃ character rest, text = character :: rest ∧
        Text.foldsTo letter character = true ∧
        rest ∈ (word keyword).language := by
  rw [word, language, Language.mem_mul]
  constructor
  · intro matched
    obtain ⟨_, ⟨character, folds, rfl⟩, rest, inWord, rfl⟩ := matched
    exact ⟨character, rest, rfl, folds, inWord⟩
  · intro matched
    obtain ⟨character, rest, rfl, folds, inWord⟩ := matched
    exact ⟨[character], ⟨character, folds, rfl⟩, rest, inWord, rfl⟩

/-- A character of none of the classes is in no text of the pattern. -/
theorem not_mem_of_classes {pattern : Pattern} {character : Char}
    (excluded : ∀ isMember ∈ pattern.classes, isMember character = false)
    {text : Text} (matched : text ∈ pattern.language) : character ∉ text := by
  induction pattern generalizing text with
  | empty => simp [(Language.mem_one _).mp matched]
  | one isMember =>
      obtain ⟨head, first, rfl⟩ := matched
      have outside := excluded isMember (List.mem_singleton_self _)
      intro member
      rw [List.mem_singleton.mp member, first] at outside
      cases outside
  | run isMember =>
      have outside := excluded isMember (List.mem_singleton_self _)
      intro member
      rw [matched.2 character member] at outside
      cases outside
  | seq first second ihFirst ihSecond =>
      obtain ⟨excludedFirst, excludedSecond⟩ :=
        List.forall_mem_append.mp excluded
      obtain ⟨part, inFirst, other, inSecond, rfl⟩ :=
        Language.mem_mul.mp matched
      intro member
      rcases List.mem_append.mp member with before | behind
      · exact ihFirst excludedFirst inFirst before
      · exact ihSecond excludedSecond inSecond behind
  | either first second ihFirst ihSecond =>
      obtain ⟨excludedFirst, excludedSecond⟩ :=
        List.forall_mem_append.mp excluded
      rcases (Language.mem_add _ _ _).mp matched with inFirst | inSecond
      · exact ihFirst excludedFirst inFirst
      · exact ihSecond excludedSecond inSecond

/-- Every text of the pattern begins with a character that has the property. -/
def Begins (pattern : Pattern) (property : Char → Prop) : Prop :=
  ∀ part ∈ pattern.language, ∃ character ∈ part.head?, property character

namespace Begins

variable {property : Char → Prop} {first second : Pattern}

theorem imp {other : Char → Prop} (begins : Begins first property)
    (implies : ∀ character, property character → other character) :
    Begins first other := by
  intro part matched
  obtain ⟨character, head, holds⟩ := begins part matched
  exact ⟨character, head, implies character holds⟩

theorem seq (begins : Begins first property) (second : Pattern) :
    Begins (.seq first second) property := by
  intro part matched
  obtain ⟨start, inFirst, rest, -, rfl⟩ := Language.mem_mul.mp matched
  obtain ⟨character, head, holds⟩ := begins start inFirst
  refine ⟨character, ?_, holds⟩
  simp [List.head?_append, Option.mem_def.mp head]

theorem either (begins : Begins first property)
    (beginsSecond : Begins second property) :
    Begins (.either first second) property := by
  intro part matched
  rcases (Language.mem_add _ _ _).mp matched with inFirst | inSecond
  · exact begins part inFirst
  · exact beginsSecond part inSecond

theorem one {isMember : Char → Bool}
    (holds : ∀ character, isMember character = true → property character) :
    Begins (.one isMember) property := by
  intro part matched
  obtain ⟨character, isFirst, rfl⟩ := matched
  exact ⟨character, rfl, holds character isFirst⟩

theorem run {isMember : Char → Bool}
    (holds : ∀ character, isMember character = true → property character) :
    Begins (.run isMember) property := by
  intro part matched
  obtain ⟨solid, all⟩ := matched
  cases part with
  | nil => exact absurd rfl solid
  | cons character rest =>
      exact ⟨character, rfl, holds character (all character List.mem_cons_self)⟩

theorem optional_seq (begins : Begins first property)
    (beginsSecond : Begins second property) :
    Begins (.seq (.optional first) second) property := by
  intro part matched
  obtain ⟨start, inFirst, rest, inSecond, rfl⟩ := Language.mem_mul.mp matched
  rcases (Language.mem_add _ _ _).mp inFirst with present | absent
  · exact begins.seq second _
      (Language.mem_mul.mpr ⟨start, present, rest, inSecond, rfl⟩)
  · rw [(Language.mem_one _).mp absent]
    exact beginsSecond rest inSecond

end Begins

/-- The step takes a text of the pattern from the start, unless the pattern
could go on with the character behind it. -/
structure Takes (step : Text → Option Text) (pattern : Pattern)
    (goesOn : Char → Bool) :
    Prop where
  sound : ∀ {text rest : Text}, step text = some rest →
    ∃ part ∈ pattern.language, part ++ rest = text
  complete : ∀ {part rest : Text}, part ∈ pattern.language →
    (∀ character ∈ rest.head?, goesOn character = false) →
    step (part ++ rest) = some rest

theorem Takes.seq {first second : Text → Option Text} {pattern other : Pattern}
    {goesOn otherGoesOn : Char → Bool} (takes : Takes first pattern goesOn)
    (takesOther : Takes second other otherGoesOn)
    (apart : Begins other fun character => goesOn character = false) :
    Takes (fun text => (first text).bind second)
      (.seq pattern other) otherGoesOn where
  sound := by
    intro text rest taken
    obtain ⟨between, toBetween, toRest⟩ := Option.bind_eq_some_iff.mp taken
    obtain ⟨part, inPattern, rfl⟩ := takes.sound toBetween
    obtain ⟨behind, inOther, rfl⟩ := takesOther.sound toRest
    exact ⟨part ++ behind,
      Language.mem_mul.mpr ⟨part, inPattern, behind, inOther, rfl⟩,
      List.append_assoc _ _ _⟩
  complete := by
    intro whole rest matched stops
    obtain ⟨part, inPattern, behind, inOther, rfl⟩ :=
      Language.mem_mul.mp matched
    obtain ⟨character, head, cannot⟩ := apart behind inOther
    have stopsBetween : ∀ character ∈ (behind ++ rest).head?,
        goesOn character = false := by
      simp [List.head?_append, Option.mem_def.mp head, cannot]
    rw [List.append_assoc, takes.complete inPattern stopsBetween,
      Option.bind_some, takesOther.complete inOther stops]

theorem Takes.eq_none {step : Text → Option Text} {pattern : Pattern}
    {goesOn : Char → Bool} {property : Char → Prop}
    (takes : Takes step pattern goesOn) (begins : Begins pattern property)
    {text : Text} (other : ∀ character ∈ text.head?, ¬ property character) :
    step text = none := by
  apply Option.eq_none_iff_forall_ne_some.mpr
  intro rest taken
  obtain ⟨part, matched, rfl⟩ := takes.sound taken
  obtain ⟨character, head, holds⟩ := begins part matched
  exact other character
    (by simp [List.head?_append, Option.mem_def.mp head]) holds

/-- Of two patterns that begin in different ways at most one has a text here. -/
theorem Takes.or {first second : Text → Option Text} {pattern other : Pattern}
    {goesOn : Char → Bool} {property : Char → Prop}
    (takes : Takes first pattern goesOn)
    (takesOther : Takes second other goesOn)
    (begins : Begins pattern property)
    (beginsOther : Begins other fun character => ¬ property character) :
    Takes (fun text => (first text).or (second text))
      (.either pattern other) goesOn where
  sound := by
    intro text rest taken
    rcases Option.or_eq_some_iff.mp taken with here | ⟨-, here⟩
    · obtain ⟨part, inPattern, whole⟩ := takes.sound here
      exact ⟨part, Or.inl inPattern, whole⟩
    · obtain ⟨part, inOther, whole⟩ := takesOther.sound here
      exact ⟨part, Or.inr inOther, whole⟩
  complete := by
    intro part rest matched stops
    rcases (Language.mem_add _ _ _).mp matched with inPattern | inOther
    · rw [takes.complete inPattern stops, Option.some_or]
    · obtain ⟨character, head, without⟩ := beginsOther part inOther
      have none : first (part ++ rest) = none := by
        apply takes.eq_none begins
        simpa [List.head?_append, Option.mem_def.mp head] using without
      rw [none, Option.none_or, takesOther.complete inOther stops]

theorem Takes.of_language {step : Text → Option Text} {pattern other : Pattern}
    {goesOn : Char → Bool} (takes : Takes step pattern goesOn)
    (same : pattern.language = other.language) : Takes step other goesOn where
  sound := by
    intro text rest taken
    rw [← same]
    exact takes.sound taken
  complete := by
    intro part rest matched stops
    rw [← same] at matched
    exact takes.complete matched stops

theorem begins_word (letter : Char) (keyword : Text) :
    Begins (.word (letter :: keyword)) fun character =>
      Text.foldsTo letter character = true :=
  (Begins.one fun _ folds => folds).seq _

theorem takes_word (keyword : Text) :
    Takes (Text.afterKeyword? keyword) (.word keyword) fun _ => false := by
  induction keyword with
  | nil =>
      constructor
      · intro text rest taken
        cases taken
        exact ⟨[], rfl, rfl⟩
      · intro part rest matched _
        rw [(Language.mem_one _).mp matched]
        rfl
  | cons letter keyword ih =>
      constructor
      · intro text rest taken
        cases text with
        | nil => cases taken
        | cons character text =>
            rw [Text.afterKeyword?] at taken
            split at taken
            · next folds =>
                obtain ⟨part, inWord, rfl⟩ := ih.sound taken
                exact ⟨character :: part,
                  mem_word_cons_iff.mpr ⟨character, part, rfl, folds, inWord⟩,
                  rfl⟩
            · cases taken
      · intro whole rest matched stops
        obtain ⟨character, part, rfl, folds, inWord⟩ :=
          mem_word_cons_iff.mp matched
        rw [List.cons_append, Text.afterKeyword?, if_pos folds,
          ih.complete inWord stops]

/-- Dropping a run takes all of it. -/
theorem takes_run {isMember : Char → Bool} {step : Text → Option Text}
    (atEnd : step [] = none)
    (begins : ∀ character rest, step (character :: rest) =
      if isMember character then some (rest.dropWhile isMember) else none) :
    Takes step (.run isMember) isMember where
  sound := by
    intro text rest taken
    cases text with
    | nil =>
        rw [atEnd] at taken
        cases taken
    | cons character text =>
        rw [begins] at taken
        split at taken
        · next first =>
            cases taken
            have all : ∀ other ∈ character :: text.takeWhile isMember,
                isMember other = true :=
              List.forall_mem_cons.mpr
                ⟨first, fun _ member => List.mem_takeWhile_imp member⟩
            refine ⟨_, ⟨List.cons_ne_nil _ _, all⟩, ?_⟩
            rw [List.cons_append, List.takeWhile_append_dropWhile]
        · cases taken
  complete := by
    intro part rest matched stops
    obtain ⟨solid, all⟩ := matched
    cases part with
    | nil => exact absurd rfl solid
    | cons character part =>
        obtain ⟨first, others⟩ := List.forall_mem_cons.mp all
        have left : rest.dropWhile isMember = rest := by
          cases rest with
          | nil => rfl
          | cons next rest => simp [stops next rfl]
        rw [List.cons_append, begins, if_pos first,
          List.dropWhile_append_of_pos others, left]

end Pattern

end QueryLint
