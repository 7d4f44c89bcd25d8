import QueryLint.Proofs.Rule.Findings
import QueryLint.Proofs.Text.Blanks
import QueryLint.Rule.Basic

/-!
# White space at the ends of lines

No rule minds white space at the end of a line: it finds the same in the same
columns without it.  The reader of `SELECT *` may stop in such white space, so
its steps are followed by two notions: `Exact` steps leave the white space as it
is, and `Robust` steps may lose it, though only when nothing else is left.
-/

namespace QueryLint

namespace SelectStar

/-- The step takes nothing from white space, and leaves white space at the end
of a text behind the rest. -/
structure Exact (step : Text → Option Text) : Prop where
  none_of_blank : ∀ {text : Text}, Text.allBlank text = true → step text = none
  append : ∀ {blanks : Text}, Text.allBlank blanks = true → ∀ text,
    step (text ++ blanks) = (step text).map (· ++ blanks)

/-- At most white space is left. -/
def Spent (left? : Option Text) : Prop :=
  ∀ text ∈ left?, Text.allBlank text = true

/-- The step does the same with white space at the end of a text, or there is no
more than white space left with and without it. -/
structure Robust (step : Text → Option Text) : Prop where
  spent_of_blank : ∀ {text : Text}, Text.allBlank text = true →
    Spent (step text)
  append : ∀ {blanks : Text}, Text.allBlank blanks = true → ∀ text,
    step (text ++ blanks) = (step text).map (· ++ blanks) ∨
      Spent (step text) ∧ Spent (step (text ++ blanks))

theorem Spent.bind {left? : Option Text} (spent : Spent left?)
    {next : Text → Option Text}
    (later : ∀ {text : Text}, Text.allBlank text = true → Spent (next text)) :
    Spent (left?.bind next) := by
  intro text member
  obtain ⟨before, left, after⟩ := Option.bind_eq_some_iff.mp member
  exact later (spent before left) text after

theorem Spent.bind_eq_none {left? : Option Text} (spent : Spent left?)
    {next : Text → Option Text}
    (later : ∀ {text : Text}, Text.allBlank text = true → next text = none) :
    left?.bind next = none := by
  cases left? with
  | none => rfl
  | some text => exact later (spent text rfl)

variable {first second : Text → Option Text}

theorem Exact.robust (only : Exact first) : Robust first where
  spent_of_blank all := by
    rw [only.none_of_blank all]
    exact nofun
  append all text := Or.inl (only.append all text)

theorem Robust.bind (earlier : Robust first) (later : Robust second) :
    Robust fun text => (first text).bind second where
  spent_of_blank all := (earlier.spent_of_blank all).bind later.spent_of_blank
  append all text := by
    rcases earlier.append all text with same | ⟨spent, spentLonger⟩
    · cases taken : first text with
      | none =>
          rw [taken] at same
          exact Or.inl (by rw [same]; rfl)
      | some rest =>
          rw [taken] at same
          rw [same]
          exact later.append all rest
    · exact Or.inr ⟨spent.bind later.spent_of_blank,
        spentLonger.bind later.spent_of_blank⟩

/-- A step that needs more than white space makes the whole exact. -/
theorem Robust.bindExact (earlier : Robust first) (later : Exact second) :
    Exact fun text => (first text).bind second where
  none_of_blank all :=
    (earlier.spent_of_blank all).bind_eq_none later.none_of_blank
  append all text := by
    rcases earlier.append all text with same | ⟨spent, spentLonger⟩
    · cases taken : first text with
      | none =>
          rw [taken] at same
          rw [same]
          rfl
      | some rest =>
          rw [taken] at same
          rw [same]
          exact later.append all rest
    · rw [spent.bind_eq_none later.none_of_blank,
        spentLonger.bind_eq_none later.none_of_blank]
      rfl

theorem Exact.or (earlier : Exact first) (later : Exact second) :
    Exact fun text => (first text).or (second text) where
  none_of_blank all := by
    rw [earlier.none_of_blank all, later.none_of_blank all]; rfl
  append all text := by
    rw [earlier.append all, later.append all]
    cases first text <;> rfl

theorem exact_afterKeyword? {letter : Char} {keyword : Text}
    (solid : (letter :: keyword).any Text.isBlank = false) :
    Exact (Text.afterKeyword? (letter :: keyword)) where
  none_of_blank {text} all := by
    cases text with
    | nil => rfl
    | cons character rest =>
        have blank : Text.isBlank character = true :=
          List.all_eq_true.mp all character List.mem_cons_self
        have other :=
          Text.foldsTo_of_isBlank (Bool.or_eq_false_iff.mp solid).1 blank
        simp [Text.afterKeyword?, other]
  append all text := Text.afterKeyword?_append_of_allBlank solid all text

/-- On white space alone there is nothing more to show. -/
private theorem Robust.of_solid
    (spent : ∀ {text : Text}, Text.allBlank text = true → Spent (first text))
    (append : ∀ {blanks : Text}, Text.allBlank blanks = true →
      ∀ {character : Char} {rest : Text},
        Text.allBlank (character :: rest) = false →
        first (character :: (rest ++ blanks)) =
          (first (character :: rest)).map (· ++ blanks)) :
    Robust first where
  spent_of_blank := spent
  append {blanks} all text := by
    cases solid : Text.allBlank text with
    | true =>
        have whole : Text.allBlank (text ++ blanks) = true := by
          rw [Text.allBlank_append, solid, all]
          rfl
        exact Or.inr ⟨spent solid, spent whole⟩
    | false =>
        cases text with
        | nil => cases solid
        | cons character rest => exact Or.inl (append all solid)

theorem robust_afterBlanks? : Robust afterBlanks? := by
  apply Robust.of_solid
  · intro text all left taken
    cases text with
    | nil => cases taken
    | cons character rest =>
        obtain ⟨blank, others⟩ := Bool.and_eq_true_iff.mp all
        rw [afterBlanks?, if_pos blank,
          Text.trimStart_of_allBlank others] at taken
        cases taken
        rfl
  · intro blanks _ character rest solid
    rw [afterBlanks?, afterBlanks?]
    split
    · next blank =>
        have later : Text.allBlank rest = false := by
          simpa [Text.allBlank, blank] using solid
        rw [Text.trimStart_append later]
        rfl
    · rfl

theorem robust_skipOptional {expected : Char}
    (solid : Text.isBlank expected = false) :
    Robust fun text => some (skipOptional expected text) := by
  apply Robust.of_solid
  · rintro text all left ⟨⟩
    cases text with
    | nil => rfl
    | cons character rest =>
        have blank := (Bool.and_eq_true_iff.mp all).1
        have other : (character == expected) = false := by
          apply beq_false_of_ne
          rintro rfl
          rw [blank] at solid
          cases solid
        rw [skipOptional, other]
        exact all
  · intro blanks _ character rest _
    simp only [skipOptional]
    split <;> rfl

theorem robust_afterDigits? : Robust afterDigits? := by
  apply Robust.of_solid
  · intro text all left taken
    cases text with
    | nil => cases taken
    | cons character rest =>
        have blank := (Bool.and_eq_true_iff.mp all).1
        rw [afterDigits?, Text.isDecimal_of_isBlank blank] at taken
        cases taken
  · intro blanks all character rest _
    have stops : blanks.dropWhile Text.isDecimal = blanks := by
      cases blanks with
      | nil => rfl
      | cons blank others =>
          have first := (Bool.and_eq_true_iff.mp all).1
          simp [Text.isDecimal_of_isBlank first]
    have dropped : (rest ++ blanks).dropWhile Text.isDecimal =
        rest.dropWhile Text.isDecimal ++ blanks := by
      rw [List.dropWhile_append, stops]
      split
      · next empty => rw [List.isEmpty_iff.mp empty, List.nil_append]
      · rfl
    rw [afterDigits?, afterDigits?, dropped]
    split <;> rfl

theorem robust_afterTop? : Robust afterTop? := by
  have word : Robust (Text.afterKeyword? "top".toList) :=
    (exact_afterKeyword? (by decide)).robust
  have space := word.bind robust_afterBlanks?
  have number :=
    (space.bind (robust_skipOptional
      (by decide : Text.isBlank '(' = false))).bind robust_afterDigits?
  have whole := (number.bind
    (robust_skipOptional (by decide : Text.isBlank ')' = false))).bind
    robust_afterBlanks?
  simp only [Option.bind_assoc, Option.bind_some] at whole
  exact whole

theorem robust_afterDistinct? : Robust afterDistinct? :=
  (exact_afterKeyword? (by decide)).robust.bind robust_afterBlanks?

/-- The text after a star. -/
def afterSign? : Text → Option Text
  | '*' :: rest => some rest
  | _ => none

theorem exact_afterSign? : Exact afterSign? where
  none_of_blank {text} all := by
    rw [afterSign?]
    rintro rest rfl
    cases all
  append {blanks} all text := by
    cases text with
    | cons character rest =>
        by_cases star : character = '*'
        · subst star
          rfl
        · simp [afterSign?, star]
    | nil =>
        cases blanks with
        | nil => rfl
        | cons blank others =>
            rw [List.nil_append, afterSign?]
            · rfl
            · intro rest same
              cases same
              cases all

section Modifier

variable {character : Char} {rest : Text}

private theorem afterDistinct?_of_ne (other : character.toLower ≠ 'd') :
    afterDistinct? (character :: rest) = none := by
  simp [afterDistinct?, Text.afterKeyword?, Text.foldsTo, other]

private theorem afterTop?_of_ne (other : character.toLower ≠ 't') :
    afterTop? (character :: rest) = none := by
  simp [afterTop?, Text.afterKeyword?, Text.foldsTo, other]

private theorem afterSign?_of_toLower {letter : Char}
    (lowered : character.toLower = letter) (other : letter ≠ '*') :
    afterSign? (character :: rest) = none := by
  rw [afterSign?]
  intro _ same
  cases same
  exact other lowered.symm

/-- The words and the star exclude each other, so that they can be tried in
turn. -/
theorem afterSign?_afterModifier (text : Text) :
    afterSign? (afterModifier text) =
      ((afterDistinct? text).bind afterSign?).or
        (((afterTop? text).bind afterSign?).or (afterSign? text)) := by
  cases text with
  | nil => rfl
  | cons character rest =>
      -- The first character decides which of the three can be there.
      by_cases distinct : character.toLower = 'd'
      · have notTop : afterTop? (character :: rest) = none :=
          afterTop?_of_ne (by rw [distinct]; decide)
        have notStar : afterSign? (character :: rest) = none :=
          afterSign?_of_toLower distinct (by decide)
        cases taken : afterDistinct? (character :: rest) with
        | none => simp [afterModifier, taken, notTop, notStar]
        | some after => simp [afterModifier, taken, notTop, notStar]
      · have notDistinct : afterDistinct? (character :: rest) = none :=
          afterDistinct?_of_ne distinct
        by_cases top : character.toLower = 't'
        · have notStar : afterSign? (character :: rest) = none :=
            afterSign?_of_toLower top (by decide)
          cases taken : afterTop? (character :: rest) with
          | none => simp [afterModifier, taken, notDistinct, notStar]
          | some after => simp [afterModifier, taken, notDistinct, notStar]
        · have notTop : afterTop? (character :: rest) = none :=
            afterTop?_of_ne top
          simp [afterModifier, notDistinct, notTop]

end Modifier

theorem exact_afterStar? : Exact afterStar? := by
  have word : Robust (Text.afterKeyword? "select".toList) :=
    (exact_afterKeyword? (by decide)).robust
  have modifiers := (robust_afterDistinct?.bindExact exact_afterSign?).or
    ((robust_afterTop?.bindExact exact_afterSign?).or exact_afterSign?)
  have whole := (word.bind robust_afterBlanks?).bindExact modifiers
  simp only [← afterSign?_afterModifier, Option.bind_assoc] at whole
  exact whole

/-- The star of a `SELECT *` that begins here comes before the later ones. -/
theorem starOffsets_cons (offset : Nat) (insideWord : Bool) (character : Char)
    (rest : Text) :
    starOffsets offset insideWord (character :: rest) =
      (match insideWord, afterStar? (character :: rest) with
      | false, some after =>
          [offset + Text.byteLength (character :: rest) -
            Text.byteLength after - 1]
      | _, _ => []) ++
        starOffsets (offset + character.utf8Size)
          (Text.isWordChar character) rest := by
  cases insideWord with
  | true => rfl
  | false =>
      change (match false, afterStar? (character :: rest) with
        | false, some _ => _ :: _
        | _, _ => _) = _
      cases afterStar? (character :: rest) with
      | none => rfl
      | some after => rfl

private theorem starOffsets_of_allBlank {blanks : Text}
    (all : Text.allBlank blanks = true) (offset : Nat) (insideWord : Bool) :
    starOffsets offset insideWord blanks = [] := by
  induction blanks generalizing offset insideWord with
  | nil => rfl
  | cons blank others ih =>
      have later := ih (Bool.and_eq_true_iff.mp all).2
      rw [starOffsets_cons, exact_afterStar?.none_of_blank all, later]
      cases insideWord <;> rfl

private theorem starOffsets_append_of_allBlank {blanks : Text}
    (all : Text.allBlank blanks = true) (text : Text) (offset : Nat)
    (insideWord : Bool) :
    starOffsets offset insideWord (text ++ blanks) =
      starOffsets offset insideWord text := by
  induction text generalizing offset insideWord with
  | nil => exact starOffsets_of_allBlank all offset insideWord
  | cons character rest ih =>
      have whole := exact_afterStar?.append all (character :: rest)
      rw [List.cons_append] at whole ⊢
      rw [starOffsets_cons, starOffsets_cons, whole, ih]
      congr 1
      cases insideWord with
      | true => rfl
      | false =>
          cases afterStar? (character :: rest) with
          | none => rfl
          | some after =>
              -- The white space counts for the whole text and for the rest of
              -- it.
              have measured := Text.byteLength_append (character :: rest) blanks
              have left := Text.byteLength_append after blanks
              rw [List.cons_append] at measured
              simp only [Option.map_some, measured, left]
              congr 1
              omega

theorem columns_append_of_allBlank {blanks : Text}
    (all : Text.allBlank blanks = true) (line : Text) :
    columns (line ++ blanks) = columns line := by
  rw [columns, columns, starOffsets_append_of_allBlank all]

end SelectStar

namespace PrintStatement

theorem columns_append_of_allBlank {blanks : Text}
    (all : Text.allBlank blanks = true) (line : Text) :
    columns (line ++ blanks) = columns line := by
  have empty : ∀ {text : Text}, Text.allBlank text = true →
      columns text = [] := by
    intro text only
    simp [columns, Text.trimStart_of_allBlank only, Text.afterKeyword?]
  cases solid : Text.allBlank line with
  | true =>
      have whole : Text.allBlank (line ++ blanks) = true := by
        rw [Text.allBlank_append, solid, all]
        rfl
      rw [empty whole, empty solid]
  | false =>
      have letters : "print".toList.any Text.isBlank = false := by decide
      have word :=
        Text.afterKeyword?_append_of_allBlank letters all (Text.trimStart line)
      simp only [columns, Text.trimStart_append solid, word,
        Text.byteLength_append]
      cases Text.afterKeyword? "print".toList (Text.trimStart line) with
      | none => rfl
      | some rest =>
          simp only [Option.map_some, Text.endsWord_append_of_allBlank all,
            Nat.add_sub_add_right]

end PrintStatement

namespace SemicolonTermination

private theorem lastStatement?_map_trimEnd (lines : List Text) :
    lastStatement? (lines.map Text.trimEnd) =
      (lastStatement? lines).map fun (line, number) =>
        (Text.trimEnd line, number) := by
  rw [lastStatement?, List.zipIdx_map, ← List.map_reverse, List.find?_map]
  simp only [Function.comp_def, Prod.map, id, Text.allBlank_trimEnd]
  rfl

theorem check_map_trimEnd (lines : List Text) :
    check (lines.map Text.trimEnd) = check lines := by
  rw [check, check, lastStatement?_map_trimEnd]
  cases lastStatement? lines with
  | none => rfl
  | some numbered => simp only [Option.map_some, Text.trimEnd_trimEnd]

end SemicolonTermination

namespace Rule

private theorem columns_trimEnd {columns : Text → List Nat}
    (stable : ∀ {blanks : Text}, Text.allBlank blanks = true → ∀ line,
      columns (line ++ blanks) = columns line) (line : Text) :
    columns (Text.trimEnd line) = columns line := by
  obtain ⟨blanks, all, same⟩ := Text.exists_trimEnd_append line
  rw [← stable all, same]

/-- White space at the ends of lines makes no difference to any rule. -/
theorem check_map_trimEnd (rule : Rule) (lines : List Text) :
    rule.check (lines.map Text.trimEnd) = rule.check lines := by
  cases rule with
  | selectStar =>
      exact onEachLine_map
        (columns_trimEnd SelectStar.columns_append_of_allBlank) lines
  | semicolonTermination => exact SemicolonTermination.check_map_trimEnd lines
  | printStatement =>
      exact onEachLine_map
        (columns_trimEnd PrintStatement.columns_append_of_allBlank) lines

end Rule

end QueryLint
