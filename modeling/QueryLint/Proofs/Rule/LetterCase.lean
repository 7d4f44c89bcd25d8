import QueryLint.Proofs.Rule.TrailingBlanks
import QueryLint.Proofs.Suppression.LetterCase

/-!
# Rules in any letter case

No rule minds the case of letters: it finds the same in the same columns of the
lowered code.
-/

namespace QueryLint

namespace SelectStar

/-- The step takes the same away from a lowered text. -/
def Caseless (step : Text → Option Text) : Prop :=
  ∀ text, step (Text.lower text) = (step text).map Text.lower

theorem Caseless.bind {first second : Text → Option Text}
    (earlier : Caseless first) (later : Caseless second) :
    Caseless fun text => (first text).bind second := by
  intro text
  change (first (Text.lower text)).bind second =
    ((first text).bind second).map Text.lower
  rw [earlier]
  cases first text with
  | none => rfl
  | some rest => exact later rest

theorem caseless_afterKeyword? (keyword : Text) :
    Caseless (Text.afterKeyword? keyword) :=
  Text.afterKeyword?_lower keyword

theorem caseless_afterBlanks? : Caseless afterBlanks? := by
  intro text
  cases text with
  | nil => rfl
  | cons character text =>
      change afterBlanks? (character.toLower :: Text.lower text) = _
      simp only [afterBlanks?, Text.isBlank_toLower, Text.trimStart_lower]
      split
      · rfl
      · rfl

theorem caseless_skipOptional {expected : Char}
    (notLetter : expected.toNat < 97 ∨ 122 < expected.toNat)
    (kept : expected.toLower = expected) :
    Caseless fun text => some (skipOptional expected text) := by
  intro text
  apply congrArg some
  cases text with
  | nil => rfl
  | cons character text =>
      change skipOptional expected (character.toLower :: Text.lower text) = _
      rw [skipOptional, skipOptional, Text.toLower_beq notLetter kept]
      split
      · rfl
      · rfl

theorem caseless_afterDigits? : Caseless afterDigits? := by
  intro text
  cases text with
  | nil => rfl
  | cons character text =>
      have digits : Text.isDecimal ∘ Char.toLower = Text.isDecimal :=
        funext Text.isDecimal_toLower
      change afterDigits? (character.toLower :: text.map Char.toLower) = _
      rw [afterDigits?, afterDigits?, Text.isDecimal_toLower,
        List.dropWhile_map, digits]
      split
      · rfl
      · rfl

theorem caseless_afterTop? : Caseless afterTop? := by
  have opening :=
    caseless_skipOptional (by decide) (by decide : '('.toLower = '(')
  have closing :=
    caseless_skipOptional (by decide) (by decide : ')'.toLower = ')')
  have space := (caseless_afterKeyword? "top".toList).bind caseless_afterBlanks?
  have number := (space.bind opening).bind caseless_afterDigits?
  have whole := (number.bind closing).bind caseless_afterBlanks?
  simp only [Option.bind_assoc, Option.bind_some] at whole
  exact whole

theorem caseless_afterDistinct? : Caseless afterDistinct? :=
  (caseless_afterKeyword? "distinct".toList).bind caseless_afterBlanks?

theorem afterModifier_lower (text : Text) :
    afterModifier (Text.lower text) = Text.lower (afterModifier text) := by
  rw [afterModifier, afterModifier, caseless_afterDistinct?, caseless_afterTop?]
  cases afterDistinct? text with
  | some rest => rfl
  | none => cases afterTop? text <;> rfl

theorem caseless_afterSign? : Caseless afterSign? := by
  intro text
  cases text with
  | nil => rfl
  | cons character rest =>
      by_cases star : character = '*'
      · subst star
        rfl
      · have lowered : character.toLower ≠ '*' :=
          fun same => star (Text.eq_of_toLower_eq same (by decide))
        change afterSign? (character.toLower :: Text.lower rest) = _
        simp [afterSign?, star, lowered]

theorem caseless_afterStar? : Caseless afterStar? := by
  have sign : Caseless fun text => afterSign? (afterModifier text) := by
    intro text
    change afterSign? (afterModifier (Text.lower text)) = _
    rw [afterModifier_lower]
    exact caseless_afterSign? _
  have word :=
    (caseless_afterKeyword? "select".toList).bind caseless_afterBlanks?
  have whole := word.bind sign
  simp only [Option.bind_assoc] at whole
  exact whole

theorem starOffsets_lower (offset : Nat) (insideWord : Bool) (text : Text) :
    starOffsets offset insideWord (Text.lower text) =
      starOffsets offset insideWord text := by
  induction text generalizing offset insideWord with
  | nil => rfl
  | cons character rest ih =>
      have length := Text.byteLength_lower (character :: rest)
      have star := caseless_afterStar? (character :: rest)
      have unfolded : Text.lower (character :: rest) =
          character.toLower :: Text.lower rest :=
        rfl
      rw [unfolded] at length star ⊢
      rw [starOffsets_cons, starOffsets_cons, star, length, ih,
        Text.utf8Size_toLower, Text.isWordChar_toLower]
      cases insideWord with
      | true => rfl
      | false =>
          cases afterStar? (character :: rest) with
          | none => rfl
          | some after => simp

theorem columns_lower (line : Text) :
    columns (Text.lower line) = columns line := by
  rw [columns, columns, starOffsets_lower]

end SelectStar

theorem PrintStatement.columns_lower (line : Text) :
    columns (Text.lower line) = columns line := by
  simp only [columns, Text.trimStart_lower, Text.afterKeyword?_lower,
    Text.byteLength_lower]
  cases Text.afterKeyword? "print".toList (Text.trimStart line) with
  | none => rfl
  | some rest => simp

namespace SemicolonTermination

private theorem lastStatement?_lower (lines : List Text) :
    lastStatement? (lines.map Text.lower) =
      (lastStatement? lines).map fun (line, number) =>
        (Text.lower line, number) := by
  rw [lastStatement?, List.zipIdx_map, ← List.map_reverse, List.find?_map]
  simp only [Function.comp_def, Prod.map, id, Text.allBlank_lower]
  rfl

theorem check_lower (lines : List Text) :
    check (lines.map Text.lower) = check lines := by
  rw [check, check, lastStatement?_lower]
  cases lastStatement? lines with
  | none => rfl
  | some numbered =>
      obtain ⟨line, number⟩ := numbered
      have sign : (Text.lower (Text.trimEnd line)).getLast? = some ';' ↔
          (Text.trimEnd line).getLast? = some ';' := by
        rw [Text.lower, List.getLast?_map, Option.map_eq_some_iff]
        constructor
        · rintro ⟨character, last, lowered⟩
          exact Text.eq_of_toLower_eq lowered (by decide) ▸ last
        · exact fun last => ⟨';', last, rfl⟩
      have length : (Text.lower (Text.trimEnd line)).length =
          (Text.trimEnd line).length :=
        List.length_map _
      simp [sign, length]

end SemicolonTermination

/-- The case of letters in the code makes no difference to any rule. -/
theorem Rule.check_lower (rule : Rule) (lines : List Text) :
    rule.check (lines.map Text.lower) = rule.check lines := by
  cases rule with
  | selectStar => exact onEachLine_map SelectStar.columns_lower lines
  | semicolonTermination => exact SemicolonTermination.check_lower lines
  | printStatement => exact onEachLine_map PrintStatement.columns_lower lines

theorem RuleSet.evaluate_lower (rules : RuleSet) (unit : String)
    (suppressions : Suppressions) (lines : List Text) :
    rules.evaluate unit suppressions (lines.map Text.lower) =
      rules.evaluate unit suppressions lines := by
  have checked (rule : Rule) :
      rules.verdictsOf unit suppressions
          ((codeOnly lines).map Text.lower) rule =
        rules.verdictsOf unit suppressions (codeOnly lines) rule := by
    rw [verdictsOf, verdictsOf, Rule.check_lower]
  rw [evaluate, evaluate, codeOnly_lower]
  exact congrArg Rule.all.flatMap (funext checked)

end QueryLint
