import QueryLint.Proofs.Rule.TrailingBlanks
import QueryLint.Proofs.Text.Lowering
import QueryLint.Proofs.Text.Pattern

/-!
# What stands before a star

A star stands in place of column names if the text before it ends with `SELECT`,
white space and possibly a modifier.  The readers of the rule take the longest
run and the first word that fits, and never have to try another way: each part
begins with a character with which the part before it cannot go on.
-/

namespace QueryLint.SelectStar

open Pattern (Begins Takes begins_word takes_run takes_word)

/-- `DISTINCT` and white space. -/
def distinct : Pattern :=
  .seq (.word "distinct".toList) (.run Text.isBlank)

/-- `TOP`, a number that may have a parenthesis on either side, and white
space. -/
def top : Pattern :=
  .seq (.word "top".toList) <| .seq (.run Text.isBlank) <|
    .seq (.seq (.optional (.one (· == '('))) (.run Text.isDecimal))
      (.seq (.optional (.one (· == ')'))) (.run Text.isBlank))

def modifier : Pattern :=
  .optional (.either distinct top)

/-- `SELECT`, white space and what may stand between it and the star. -/
def opening : Pattern :=
  .seq (.word "select".toList) (.seq (.run Text.isBlank) modifier)

def star : Pattern :=
  .one (· == '*')

theorem takes_afterBlanks? :
    Takes afterBlanks? (.run Text.isBlank) Text.isBlank :=
  takes_run rfl fun _ _ => rfl

theorem takes_afterDigits? :
    Takes afterDigits? (.run Text.isDecimal) Text.isDecimal :=
  takes_run rfl fun _ _ => rfl

theorem takes_skipOptional (sign : Char) :
    Takes (fun text => some (skipOptional sign text))
      (.optional (.one (· == sign)))
      (· == sign) where
  sound := by
    intro text rest taken
    cases taken
    cases text with
    | nil => exact ⟨[], Or.inr rfl, rfl⟩
    | cons character text =>
        rw [skipOptional]
        split
        · next isSign =>
            exact ⟨[character], Or.inl ⟨character, isSign, rfl⟩, rfl⟩
        · exact ⟨[], Or.inr rfl, rfl⟩
  complete := by
    intro part rest matched stops
    rcases (Language.mem_add _ _ _).mp matched with present | absent
    · obtain ⟨character, isSign, rfl⟩ := present
      simp only [List.singleton_append, skipOptional, isSign, if_true]
    · rw [(Language.mem_one _).mp absent, List.nil_append]
      cases rest with
      | nil => rfl
      | cons character rest => simp [skipOptional, stops character rfl]

theorem takes_afterDistinct? : Takes afterDistinct? distinct Text.isBlank :=
  (takes_word "distinct".toList).seq takes_afterBlanks?
    (Begins.run fun _ _ => rfl)

theorem begins_sign {sign : Char} {property : Char → Prop}
    (holds : property sign) :
    Begins (.one (· == sign)) property :=
  Begins.one fun _ isSign => beq_iff_eq.mp isSign ▸ holds

private theorem ne_sign_of_inside {isMember : Char → Bool} {sign : Char}
    (excluded : isMember sign = false) (character : Char)
    (inside : isMember character = true) :
    (character == sign) = false := by
  apply beq_false_of_ne
  intro same
  rw [same, excluded] at inside
  cases inside

private theorem solid_of_isDecimal (character : Char)
    (digit : Text.isDecimal character = true) :
    Text.isBlank character = false := by
  apply Bool.eq_false_iff.mpr
  intro blank
  rw [Text.isDecimal_of_isBlank blank] at digit
  cases digit

theorem takes_afterTop? : Takes afterTop? top Text.isBlank := by
  have number := (takes_skipOptional '(').seq takes_afterDigits?
    (Begins.run (ne_sign_of_inside (by decide)))
  have ending := (takes_skipOptional ')').seq takes_afterBlanks?
    (Begins.run (ne_sign_of_inside (by decide)))
  have closed : Begins (.one (· == ')')) fun character =>
      Text.isDecimal character = false :=
    begins_sign (by decide)
  have opened : Begins (.one (· == '(')) fun character =>
      Text.isBlank character = false :=
    begins_sign (by decide)
  have endingApart :=
    closed.optional_seq (Begins.run fun _ => Text.isDecimal_of_isBlank)
  have numberApart := opened.optional_seq (Begins.run solid_of_isDecimal)
  have behind := number.seq ending endingApart
  have space := takes_afterBlanks?.seq behind (numberApart.seq _)
  have whole := (takes_word "top".toList).seq space
    ((Begins.run fun _ _ => rfl).seq _)
  simp only [Option.bind_some] at whole
  exact whole

theorem takes_afterSign? : Takes afterSign? star fun _ => false where
  sound := by
    intro text rest taken
    cases text with
    | nil => cases taken
    | cons character text =>
        by_cases isStar : character = '*'
        · subst isStar
          cases taken
          exact ⟨['*'], ⟨'*', rfl, rfl⟩, rfl⟩
        · simp [afterSign?, isStar] at taken
  complete := by
    intro part rest matched _
    obtain ⟨character, isStar, rfl⟩ := matched
    rw [beq_iff_eq.mp isStar]
    rfl

theorem begins_distinct :
    Begins distinct fun character => character.toLower = 'd' :=
  ((begins_word 'd' "istinct".toList).seq _).imp fun _ folds => by
    simpa [Text.foldsTo] using folds

theorem begins_top : Begins top fun character => character.toLower = 't' :=
  ((begins_word 't' "op".toList).seq _).imp fun _ folds => by
    simpa [Text.foldsTo] using folds

/-- Whichever word there is, it is not the other one, and neither is a star. -/
theorem takes_afterModifier :
    Takes (fun text => afterSign? (afterModifier text)) (.seq modifier star)
      fun _ => false := by
  -- Each of the ways is followed up to the star, so that they differ in what
  -- they begin with.
  have starApart : Begins star fun character =>
      Text.isBlank character = false :=
    begins_sign (by decide)
  have distinctAndStar := takes_afterDistinct?.seq takes_afterSign? starApart
  have topAndStar := takes_afterTop?.seq takes_afterSign? starApart
  have topNotDistinct : Begins (.seq top star) fun character =>
      ¬ character.toLower = 'd' := by
    apply (begins_top.seq star).imp
    intro character lowered
    rw [lowered]
    decide
  have topOrStar := topAndStar.or takes_afterSign? (begins_top.seq star)
    (begins_sign (by decide))
  have whole := distinctAndStar.or topOrStar (begins_distinct.seq star)
    (topNotDistinct.either (begins_sign (by decide)))
  simp only [← afterSign?_afterModifier] at whole
  apply whole.of_language
  simp [Pattern.language, modifier, Pattern.optional, add_mul, add_assoc]

private theorem solid_of_toLower {character letter : Char}
    (solid : Text.isBlank letter = false)
    (lowered : character.toLower = letter) :
    Text.isBlank character = false := by
  rw [← Text.isBlank_toLower, lowered, solid]

theorem takes_afterStar? :
    Takes afterStar? (.seq opening star) fun _ => false := by
  have wordApart := Begins.either
    (begins_distinct.imp fun _ => solid_of_toLower (by decide))
    (begins_top.imp fun _ => solid_of_toLower (by decide))
  have space := (takes_afterBlanks?.seq takes_afterModifier
    (wordApart.optional_seq (begins_sign (by decide)))).of_language
      (Pattern.language_seq_assoc _ _ _)
  exact ((takes_word "select".toList).seq space
    (((Begins.run fun _ _ => rfl).seq modifier).seq star)).of_language
      (Pattern.language_seq_assoc _ _ _)

theorem mem_seq_star_iff {part : Text} :
    part ∈ (Pattern.seq opening star).language ↔
      ∃ start ∈ opening.language, part = start ++ ['*'] := by
  rw [Pattern.language, Language.mem_mul]
  constructor
  · intro matched
    obtain ⟨start, inOpening, sign, ⟨character, isStar, rfl⟩, rfl⟩ := matched
    rw [beq_iff_eq.mp isStar]
    exact ⟨start, inOpening, rfl⟩
  · intro matched
    obtain ⟨start, inOpening, rfl⟩ := matched
    exact ⟨start, inOpening, ['*'], ⟨'*', rfl, rfl⟩, rfl⟩

/-- The readers find a star wherever one stands behind an opening. -/
theorem afterStar?_eq_some_iff {text rest : Text} :
    afterStar? text = some rest ↔
      ∃ part ∈ opening.language, part ++ '*' :: rest = text := by
  constructor
  · intro taken
    obtain ⟨whole, matched, rfl⟩ := takes_afterStar?.sound taken
    obtain ⟨part, inOpening, rfl⟩ := mem_seq_star_iff.mp matched
    exact ⟨part, inOpening, by simp⟩
  · intro split
    obtain ⟨part, inOpening, rfl⟩ := split
    have matched := mem_seq_star_iff.mpr ⟨part, inOpening, rfl⟩
    have taken : afterStar? ((part ++ ['*']) ++ rest) = some rest :=
      takes_afterStar?.complete matched fun _ _ => rfl
    simpa using taken

/-- Trying the pattern comes to what the readers do. -/
theorem head?_choices (text : Text) :
    ((Pattern.seq opening star).choices text).head? = afterStar? text := by
  have same (rest : Text) :
      rest ∈ (Pattern.seq opening star).choices text ↔
        afterStar? text = some rest := by
    rw [Pattern.mem_choices_iff, afterStar?_eq_some_iff]
    constructor
    · intro split
      obtain ⟨whole, matched, rfl⟩ := split
      obtain ⟨part, inOpening, rfl⟩ := mem_seq_star_iff.mp matched
      exact ⟨part, inOpening, by simp⟩
    · intro split
      obtain ⟨part, inOpening, rfl⟩ := split
      exact ⟨part ++ ['*'], mem_seq_star_iff.mpr ⟨part, inOpening, rfl⟩,
        by simp⟩
  cases tries : (Pattern.seq opening star).choices text with
  | nil =>
      symm
      apply Option.eq_none_iff_forall_ne_some.mpr
      intro rest taken
      have member := (same rest).mpr taken
      rw [tries] at member
      cases member
  | cons rest others =>
      symm
      apply (same rest).mp
      rw [tries]
      exact List.mem_cons_self

theorem star_not_mem_of_opening {part : Text}
    (inOpening : part ∈ opening.language) :
    '*' ∉ part := by
  apply Pattern.not_mem_of_classes _ inOpening
  simp only [opening, modifier, distinct, top, Pattern.optional,
    Pattern.classes]
  decide

/-- What follows the first half of `SELECT` in an opening. -/
def behindLetter : Pattern :=
  .seq (.word ['e', 'c', 't']) (.seq (.run Text.isBlank) modifier)

private theorem classes_of_letter {character : Char}
    (isLetter : Text.foldsTo 'l' character = true) :
    ∀ isMember ∈ behindLetter.classes, isMember character = false := by
  have lowered : character.toLower = 'l' := by
    simpa [Text.foldsTo] using isLetter
  have solid : Text.isBlank character = false := by
    rw [← Text.isBlank_toLower, lowered]
    decide
  have notDigit : Text.isDecimal character = false := by
    rw [← Text.isDecimal_toLower, lowered]
    decide
  have notSign {sign : Char} (other : sign.toLower ≠ 'l') : character ≠
      sign := by
    intro same
    rw [same] at lowered
    exact other lowered
  have notOpened := notSign (by decide : '('.toLower ≠ 'l')
  have notClosed := notSign (by decide : ')'.toLower ≠ 'l')
  have notLongS := notSign (by decide : '\u017f'.toLower ≠ 'l')
  simp [behindLetter, modifier, distinct, top, Pattern.optional,
    Pattern.classes, Pattern.word, Text.foldsTo, lowered, solid, notDigit,
    notOpened, notClosed, notLongS]

/-- The `L` of `SELECT` is the third character of an opening, and there is no
other one. -/
theorem letter_of_opening {part : Text} (inOpening : part ∈ opening.language) :
    ∃ first second third behind, part = first :: second :: third :: behind ∧
      Text.foldsTo 'l' third = true ∧
      ∀ character ∈ behind, Text.foldsTo 'l' character = false := by
  obtain ⟨word, inWord, ending, inEnding, rfl⟩ := Language.mem_mul.mp inOpening
  have spelled : "select".toList = ['s', 'e', 'l', 'e', 'c', 't'] := rfl
  rw [spelled] at inWord
  obtain ⟨first, behindFirst, rfl, -, inFirst⟩ :=
    Pattern.mem_word_cons_iff.mp inWord
  obtain ⟨second, behindSecond, rfl, -, inSecond⟩ :=
    Pattern.mem_word_cons_iff.mp inFirst
  obtain ⟨third, letters, rfl, folds, inLetters⟩ :=
    Pattern.mem_word_cons_iff.mp inSecond
  have inBehind : letters ++ ending ∈ behindLetter.language :=
    Language.mem_mul.mpr ⟨letters, inLetters, ending, inEnding, rfl⟩
  refine ⟨first, second, third, letters ++ ending, rfl, folds, ?_⟩
  intro character member
  apply Bool.eq_false_iff.mpr
  intro isLetter
  exact Pattern.not_mem_of_classes (classes_of_letter isLetter) inBehind member

/-- No opening is the end of another one. -/
theorem eq_nil_of_opening_append {skipped part : Text}
    (inOpening : part ∈ opening.language)
    (longer : skipped ++ part ∈ opening.language) : skipped = [] := by
  obtain ⟨first, second, third, behind, rfl, folds, -⟩ :=
    letter_of_opening inOpening
  obtain ⟨otherFirst, otherSecond, otherThird, otherBehind, same, -, without⟩ :=
    letter_of_opening longer
  cases skipped with
  | nil => rfl
  | cons character skipped =>
      -- The `L` of the shorter opening would be a second one in the longer.
      have later : third ∈ otherBehind := by
        rcases skipped with _ | ⟨_, _ | ⟨_, skipped⟩⟩
        all_goals
          simp only [List.cons_append, List.nil_append, List.cons.injEq] at same
          simp [← same.2.2.2]
      rw [without third later] at folds
      cases folds

private theorem eq_of_first_sign {sign : Char}
    {first second after rest : Text} (notFirst : sign ∉ first)
    (notSecond : sign ∉ second)
    (same : first ++ sign :: after = second ++ sign :: rest) :
    first = second := by
  rcases List.append_eq_append_iff.mp same with
    ⟨more, rfl, split⟩ | ⟨more, rfl, split⟩
  · cases more with
    | nil => simp
    | cons character more =>
        obtain ⟨rfl, -⟩ := List.cons.inj split
        simp at notSecond
  · cases more with
    | nil => simp
    | cons character more =>
        obtain ⟨rfl, -⟩ := List.cons.inj split
        simp at notFirst

/-- An opening that begins behind the start of another one begins behind its
star. -/
theorem star_before_of_openings {part other after rest skipped : Text}
    (inOpening : part ∈ opening.language)
    (otherInOpening : other ∈ opening.language) (behind : skipped ≠ [])
    (same : part ++ '*' :: after = skipped ++ (other ++ '*' :: rest)) :
    ∃ between, skipped = part ++ '*' :: between ∧
      after = between ++ (other ++ '*' :: rest) := by
  have regrouped : (part ++ ['*']) ++ after =
      skipped ++ (other ++ '*' :: rest) := by
    simpa using same
  rcases List.append_eq_append_iff.mp regrouped with
    ⟨between, whole, split⟩ | ⟨overlap, whole, split⟩
  · exact ⟨between, by simpa using whole, split⟩
  · rcases List.eq_nil_or_concat overlap with none | ⟨inside, last, concat⟩
    · rw [none, List.append_nil] at whole
      rw [none, List.nil_append] at split
      exact ⟨[], whole.symm, split.symm⟩
    · rw [concat, List.concat_eq_append, ← List.append_assoc] at whole
      obtain ⟨within, signs⟩ := List.append_inj' whole rfl
      obtain rfl : '*' = last := by simpa using signs
      have starless := star_not_mem_of_opening inOpening
      rw [within] at starless inOpening
      have overlaps : other = inside := by
        apply eq_of_first_sign (star_not_mem_of_opening otherInOpening)
        · exact fun member => starless (List.mem_append_right _ member)
        · rw [concat] at split
          simpa using split
      rw [← overlaps] at inOpening
      exact absurd (eq_nil_of_opening_append otherInOpening inOpening) behind

end QueryLint.SelectStar
