import QueryLint.Proofs.Content.Lines
import QueryLint.Proofs.Rule.Findings
import QueryLint.Proofs.Rule.TrailingBlanks
import QueryLint.Proofs.Sql.Blanking

/-!
# Where violations point

The rules about single lines find a star or a word in the code of a line, and
the line itself has it in the same place.  Their columns count bytes, though,
and every character beyond ASCII takes two of them: a violation points behind
what was found by as many columns as the code before it has such characters.
-/

namespace QueryLint

namespace Text

/-- Number of characters beyond ASCII. -/
def wideCount (text : Text) : Nat :=
  text.countP fun character => 128 ≤ character.toNat

private theorem utf8Size_of_latin {character : Char}
    (latin : character.toNat < 256) :
    character.utf8Size = 1 + if 128 ≤ character.toNat then 1 else 0 := by
  have small : character.val.toNat < 256 := latin
  unfold Char.utf8Size
  simp only [UInt32.le_iff_toNat_le]
  change (if character.val.toNat ≤ 127 then 1 else
    if character.val.toNat ≤ 2047 then 2 else _) =
      1 + if 128 ≤ character.val.toNat then 1 else 0
  split_ifs <;> omega

theorem byteLength_of_latin {text : Text}
    (latin : ∀ character ∈ text, character.toNat < 256) :
    byteLength text = text.length + wideCount text := by
  induction text with
  | nil => rfl
  | cons character rest ih =>
      obtain ⟨first, later⟩ := List.forall_mem_cons.mp latin
      have size : byteLength [character] = character.utf8Size := Nat.zero_add _
      rw [← List.singleton_append, byteLength_append, ih later, size,
        utf8Size_of_latin first, wideCount, wideCount, List.countP_append,
        List.countP_singleton, List.length_append, List.length_singleton]
      simp only [decide_eq_true_eq]
      omega

theorem suffix_of_afterKeyword? {keyword text rest : Text}
    (taken : afterKeyword? keyword text = some rest) : rest <:+ text := by
  induction keyword generalizing text with
  | nil =>
      cases taken
      exact List.suffix_rfl
  | cons letter keyword ih =>
      cases text with
      | nil => cases taken
      | cons character text =>
          rw [afterKeyword?] at taken
          split at taken
          · exact (ih taken).trans (List.suffix_cons _ _)
          · cases taken

/-- A keyword without letters that others fold to is spelled in ASCII
letters. -/
theorem lower_take_of_afterKeyword? {keyword text rest : Text}
    (plain : 's' ∉ keyword ∧ 'k' ∉ keyword)
    (taken : afterKeyword? keyword text = some rest) :
    lower (text.take keyword.length) = keyword := by
  induction keyword generalizing text with
  | nil => rfl
  | cons letter keyword ih =>
      cases text with
      | nil => cases taken
      | cons character text =>
          obtain ⟨notS, noS⟩ := List.ne_and_not_mem_of_not_mem_cons plain.1
          obtain ⟨notK, noK⟩ := List.ne_and_not_mem_of_not_mem_cons plain.2
          rw [afterKeyword?] at taken
          split at taken
          · next folds =>
              have lowered : character.toLower = letter := by
                simpa [foldsTo, notS.symm, notK.symm] using folds
              have later := ih ⟨noS, noK⟩ taken
              rw [lower] at later ⊢
              rw [List.length_cons, List.take_succ_cons, List.map_cons, lowered,
                later]
          · cases taken

end Text

namespace SelectStar

/-- The step only takes text away from the start. -/
def Forward (step : Text → Option Text) : Prop :=
  ∀ text, ∀ rest ∈ step text, rest <:+ text

theorem Forward.bind {first second : Text → Option Text}
    (earlier : Forward first) (later : Forward second) :
    Forward fun text => (first text).bind second := by
  intro text rest taken
  obtain ⟨between, toBetween, toRest⟩ := Option.bind_eq_some_iff.mp taken
  exact (later between rest toRest).trans (earlier text between toBetween)

theorem forward_afterKeyword? (keyword : Text) :
    Forward (Text.afterKeyword? keyword) :=
  fun _ _ taken => Text.suffix_of_afterKeyword? taken

theorem forward_afterBlanks? : Forward afterBlanks? := by
  intro text rest taken
  cases text with
  | nil => cases taken
  | cons character text =>
      obtain ⟨-, same⟩ := Option.ite_none_right_eq_some.mp taken
      cases same
      exact (List.dropWhile_suffix _).trans (List.suffix_cons _ _)

theorem forward_skipOptional (expected : Char) :
    Forward fun text => some (skipOptional expected text) := by
  rintro text rest ⟨⟩
  cases text with
  | nil => exact List.suffix_rfl
  | cons character text =>
      rw [skipOptional]
      split
      · exact List.suffix_cons _ _
      · exact List.suffix_rfl

theorem forward_afterDigits? : Forward afterDigits? := by
  intro text rest taken
  cases text with
  | nil => cases taken
  | cons character text =>
      obtain ⟨-, same⟩ := Option.ite_none_right_eq_some.mp taken
      cases same
      exact (List.dropWhile_suffix _).trans (List.suffix_cons _ _)

theorem forward_afterTop? : Forward afterTop? := by
  have space := (forward_afterKeyword? "top".toList).bind forward_afterBlanks?
  have number :=
    (space.bind (forward_skipOptional '(')).bind forward_afterDigits?
  have whole :=
    (number.bind (forward_skipOptional ')')).bind forward_afterBlanks?
  simp only [Option.bind_assoc, Option.bind_some] at whole
  exact whole

theorem forward_afterDistinct? : Forward afterDistinct? :=
  (forward_afterKeyword? "distinct".toList).bind forward_afterBlanks?

theorem afterModifier_suffix (text : Text) : afterModifier text <:+ text := by
  unfold afterModifier
  cases distinct : afterDistinct? text with
  | some rest => exact forward_afterDistinct? text rest distinct
  | none =>
      cases top : afterTop? text with
      | some rest => exact forward_afterTop? text rest top
      | none => exact List.suffix_rfl

/-- The star is there, right before the rest. -/
theorem star_suffix_of_afterStar? {text rest : Text}
    (taken : afterStar? text = some rest) : '*' :: rest <:+ text := by
  have start :=
    (forward_afterKeyword? "select".toList).bind forward_afterBlanks?
  obtain ⟨afterWord, word, later⟩ := Option.bind_eq_some_iff.mp taken
  obtain ⟨afterSpace, space, sign⟩ := Option.bind_eq_some_iff.mp later
  have reached : afterSpace <:+ text :=
    start text afterSpace (Option.bind_eq_some_iff.mpr ⟨afterWord, word, space⟩)
  split at sign
  · next star =>
      cases sign
      rw [← star]
      exact (afterModifier_suffix afterSpace).trans reached
  · cases sign

theorem exists_star_of_mem_starOffsets {offset place : Nat} {insideWord : Bool}
    {text : Text} (member : place ∈ starOffsets offset insideWord text) :
    ∃ before after, text = before ++ '*' :: after ∧
      place = offset + Text.byteLength before := by
  induction text generalizing offset insideWord with
  | nil => cases member
  | cons character rest ih =>
      rw [starOffsets_cons] at member
      rcases List.mem_append.mp member with here | later
      · cases insideWord with
        | true => cases here
        | false =>
            cases taken : afterStar? (character :: rest) with
            | none => simp [taken] at here
            | some after =>
                obtain ⟨before, split⟩ := star_suffix_of_afterStar? taken
                refine ⟨before, after, split.symm, ?_⟩
                have star : Text.byteLength ['*'] = 1 := rfl
                rw [taken, ← split,
                  Text.byteLength_append, ← List.singleton_append,
                  Text.byteLength_append, star] at here
                have same := List.mem_singleton.mp here
                omega
      · obtain ⟨before, after, rfl, same⟩ := ih later
        refine ⟨character :: before, after, rfl, ?_⟩
        have size : Text.byteLength [character] = character.utf8Size :=
          Nat.zero_add _
        rw [← List.singleton_append, Text.byteLength_append, size]
        omega

theorem exists_star_of_mem_columns {column : Nat} {line : Text}
    (member : column ∈ columns line) :
    ∃ before after, line = before ++ '*' :: after ∧
      column = Text.byteLength before + 1 := by
  obtain ⟨place, found, rfl⟩ := List.mem_map.mp member
  obtain ⟨before, after, split, same⟩ := exists_star_of_mem_starOffsets found
  exact ⟨before, after, split, by omega⟩

end SelectStar

theorem PrintStatement.exists_word_of_mem_columns {column : Nat} {line : Text}
    (member : column ∈ columns line) :
    ∃ before statement, line = before ++ statement ∧
      Text.lower (statement.take 5) = "print".toList ∧
      column = Text.byteLength before + 1 := by
  obtain ⟨before, split⟩ : Text.trimStart line <:+ line :=
    List.dropWhile_suffix _
  unfold columns at member
  extract_lets statement at member
  split at member
  · next rest taken =>
      split at member
      · have word := Text.lower_take_of_afterKeyword? (by decide) taken
        refine ⟨before, statement, split.symm, word, ?_⟩
        have length : Text.byteLength line =
            Text.byteLength before + Text.byteLength statement := by
          rw [← Text.byteLength_append, split]
        have same := List.mem_singleton.mp member
        omega
      · cases member
  · cases member

namespace Finding

theorem exists_line_of_mem_onEachLine {message : String}
    {columns : Text → List Nat} {lines : List Text} {finding : Finding}
    (member : finding ∈ onEachLine message columns lines) :
    ∃ index line, finding.line = index + 1 ∧ lines[index]? = some line ∧
      finding.column ∈ columns line := by
  obtain ⟨index, line, column, here, found, rfl⟩ := mem_onEachLine_iff.mp member
  exact ⟨index, line, rfl, here, found⟩

end Finding

namespace Content

/-- The sign stands in a line of the content, and the column is its place there,
pushed on by one for each character beyond ASCII that the code of the line has
before it. -/
def PointsBehind (content : Content) (sign : Text) (line column : Nat) : Prop :=
  ∃ above text code before,
    line = above + 1 ∧ content.lines[above]? = some text ∧
    (codeOnly content.lines)[above]? = some code ∧ sign <+: text.drop before ∧
    column = before + 1 + Text.wideCount (code.take before)

/-- A sign without blanks that the code has is in the line itself. -/
theorem pointsBehind_of_code {content : Content} {above : Nat}
    {before sign after : Text}
    (here : (codeOnly content.lines)[above]? = some (before ++ (sign ++ after)))
    (solid : ' ' ∉ sign) :
    content.PointsBehind sign (above + 1) (Text.byteLength before + 1) := by
  obtain ⟨bound, code⟩ := List.getElem?_eq_some_iff.mp here
  have all := forall₂_codeOnly content.lines
  have within : above < content.lines.length := all.length_eq ▸ bound
  have shows : List.Forall₂ Shows
      (before ++ (sign ++ after)) content.lines[above] :=
    code ▸ all.get bound within
  refine ⟨above, content.lines[above], _, before.length, rfl,
    List.getElem?_eq_getElem within, here, ?_, ?_⟩
  · have ahead :=
      List.forall₂_take sign.length (List.forall₂_drop before.length shows)
    rw [List.drop_left, List.take_left] at ahead
    rw [eq_of_forall₂_shows ahead solid]
    exact List.take_prefix _ _
  · have latin : ∀ character ∈ before, character.toNat < 256 := by
      intro character member
      rcases mem_or_blank_of_forall₂_shows shows
        (List.mem_append_left _ member) with
        inLine | rfl
      · exact lt_of_mem_lines (List.getElem_mem within) inLine
      · decide
    rw [List.take_left, Text.byteLength_of_latin latin]
    omega

/-- A unit with an accented letter before a star and a blank beyond ASCII before
a word. -/
def accents : Content :=
  .ofFile "accents.sql" "accents.sql"
    ("SELECT é; SELECT * FROM t;\n\u00a0PRINT 1;".toList.map fun character =>
      character.toNat.toUInt8)

end Content

namespace RuleSet

/-- Every star and every word that is reported is in a line of the content, but
the column lies behind it by the characters beyond ASCII in the code before
it. -/
theorem pointsBehind_of_mem_violations {rules : RuleSet} {unit : String}
    {suppressions : Suppressions} {content : Content} {violation : Violation}
    (member : violation ∈
      Verdict.violations (rules.evaluate unit suppressions content.lines)) :
    (violation.rule = Rule.selectStar.name →
      content.PointsBehind ['*'] violation.line violation.column) ∧
    (violation.rule = Rule.printStatement.name →
      ∃ word, Text.lower word = "print".toList ∧
        content.PointsBehind word violation.line violation.column) := by
  obtain ⟨rule, ⟨line, column, message⟩, found, -, rfl⟩ :=
    exists_finding_of_mem_violations member
  constructor
  · intro named
    cases Rule.name_injective named
    obtain ⟨above, code, rfl, here, inLine⟩ :=
      Finding.exists_line_of_mem_onEachLine found
    obtain ⟨before, after, rfl, rfl⟩ :=
      SelectStar.exists_star_of_mem_columns inLine
    exact Content.pointsBehind_of_code here (by decide)
  · intro named
    cases Rule.name_injective named
    obtain ⟨above, code, rfl, here, inLine⟩ :=
      Finding.exists_line_of_mem_onEachLine found
    obtain ⟨before, statement, rfl, word, rfl⟩ :=
      PrintStatement.exists_word_of_mem_columns inLine
    have solid : ' ' ∉ statement.take 5 := by
      intro blank
      have lowered := List.mem_map_of_mem (f := Char.toLower) blank
      rw [← Text.lower, word] at lowered
      revert lowered
      decide
    rw [← List.take_append_drop 5 statement] at here
    exact ⟨statement.take 5, word, Content.pointsBehind_of_code here solid⟩

/-- The star of column 18 is reported in column 19, the word of column 2 in
column 3. -/
theorem pointsBehind_of_mem_violations_accents :
    let violations := Verdict.violations
      (RuleSet.default.evaluate Content.accents.unit
        Content.accents.suppressions Content.accents.lines)
    let star : Violation := ⟨"accents.sql", 1, 19, .error, Rule.selectStar.name,
      "Expected column names in SELECT"⟩
    let print : Violation :=
      ⟨"accents.sql", 2, 3, .error, Rule.printStatement.name,
        "PRINT statement found"⟩
    (star ∈ violations ∧ Content.accents.PointsBehind ['*'] 1 19) ∧
    print ∈ violations ∧
    ∃ word, Text.lower word = "print".toList ∧
      Content.accents.PointsBehind word 2 3 := by
  intro violations star print
  have starFound : star ∈ violations := by decide +kernel
  have printFound : print ∈ violations := by decide +kernel
  exact ⟨⟨starFound, (pointsBehind_of_mem_violations starFound).1 rfl⟩,
    printFound, (pointsBehind_of_mem_violations printFound).2 rfl⟩

/-- Columns do not point at the original text: neither the star nor the word
begins in the column that is reported for it. -/
theorem columns_miss_behind_accents :
    let violations := Verdict.violations
      (RuleSet.default.evaluate Content.accents.unit
        Content.accents.suppressions Content.accents.lines)
    (¬ ∀ violation ∈ violations, violation.rule = Rule.selectStar.name →
      ∃ text, Content.accents.lines[violation.line - 1]? = some text ∧
        text[violation.column - 1]? = some '*') ∧
    (¬ ∀ violation ∈ violations, violation.rule = Rule.printStatement.name →
      ∃ text, Content.accents.lines[violation.line - 1]? = some text ∧
        Text.lower ((text.drop (violation.column - 1)).take 5) =
          "print".toList) := by
  intro violations
  have found : violations =
      [⟨"accents.sql", 1, 19, .error, Rule.selectStar.name,
        "Expected column names in SELECT"⟩,
      ⟨"accents.sql", 2, 3, .error, Rule.printStatement.name,
        "PRINT statement found"⟩] := by
    decide +kernel
  have lines : Content.accents.lines =
      ["SELECT é; SELECT * FROM t;".toList, "\u00a0PRINT 1;".toList] := by
    decide +kernel
  rw [found, lines]
  constructor
  · intro claimed
    obtain ⟨text, here, star⟩ := claimed _ List.mem_cons_self rfl
    cases here
    exact absurd star (by decide)
  · intro claimed
    obtain ⟨text, here, word⟩ :=
      claimed _ (List.mem_cons_of_mem _ List.mem_cons_self) rfl
    cases here
    exact absurd word (by decide)

end RuleSet

end QueryLint
