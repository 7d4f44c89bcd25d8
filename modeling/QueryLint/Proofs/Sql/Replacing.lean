import QueryLint.Proofs.Sql.Appending
import QueryLint.Rule.RuleSet
import QueryLint.Suppression.Scan

/-!
# Other characters in literals and comments

The lexer looks at a character of a literal or of a comment only to find the end
of it.  Replacing one that is not part of a delimiter by another such character
therefore leaves the lexer in the same regions ever after.  What the rest of a
line may look like before and after the replacement is `Twins`; how far the
lexed lines agree is `Alike`.
-/

namespace QueryLint.LexedLine

/-- Rests of a line that differ in one character of a literal or a comment,
where the lexer is in the region before them. -/
inductive Twins : Region → Text → Text → Prop where
  | literal {old new : Char} (after : Text) :
      old ≠ '\'' → new ≠ '\'' → Twins .literal (old :: after) (new :: after)
  | blockComment {old new : Char} (after : Text) :
      old ∉ ['*', '/'] → new ∉ ['*', '/'] →
      Twins .comment (old :: after) (new :: after)
  | lineComment {old new : Char} (body after : Text) :
      Twins .code ('-' :: '-' :: (body ++ old :: after))
        ('-' :: '-' :: (body ++ new :: after))

/-- The lexed lines have the same code, the next lines begin in the same region,
and a character of a literal makes no difference to comments either. -/
structure Alike (place : Region) (first second : LexedLine × Region) :
    Prop where
  code : first.1.code = second.1.code
  region : first.2 = second.2
  comments : place = .literal → first.1.comments = second.1.comments

variable {place region : Region} {first second : LexedLine × Region}
variable {before more other rest : Text} {character : Char}

namespace Alike

theorem withCode (alike : Alike place first second) (character : Char) :
    Alike place (first.1.withCode character, first.2)
      (second.1.withCode character, second.2) :=
  ⟨congrArg (character :: ·) alike.code, alike.region, alike.comments⟩

theorem withComment (alike : Alike place first second) (body : Text) :
    Alike place (first.1.withComment body, first.2)
      (second.1.withComment body, second.2) :=
  ⟨alike.code, alike.region, fun inLiteral =>
    congrArg (body :: ·) (alike.comments inLiteral)⟩

theorem withBody (alike : Alike place first second) (character : Char) :
    Alike place (first.1.withBody character, first.2)
      (second.1.withBody character, second.2) := by
  refine ⟨?_, alike.region, ?_⟩
  · rw [withBody_code, withBody_code, alike.code]
  · intro inLiteral
    unfold LexedLine.withBody
    rw [alike.comments inLiteral]
    split <;> rfl

theorem eq_of_literal (alike : Alike .literal first second) :
    first = second := by
  obtain ⟨⟨code, comments⟩, region⟩ := first
  obtain ⟨⟨otherCode, otherComments⟩, otherRegion⟩ := second
  obtain ⟨rfl, rfl, same⟩ := alike
  obtain rfl : comments = otherComments := same rfl
  rfl

end Alike

private theorem lex_literal_cons (notQuote : character ≠ '\'') (rest : Text) :
    lex .literal (character :: rest) =
      ((lex .literal rest).1.withCode ' ', (lex .literal rest).2) := by
  rw [lex]
  · exact fun _ quote => absurd quote notQuote
  · exact notQuote

private theorem lex_comment_cons_of_ne (notStar : character ≠ '*')
    (rest : Text) :
    lex .comment (character :: rest) =
      ((lex .comment rest).1.withBody character, (lex .comment rest).2) := by
  rw [lex]
  exact fun _ star => absurd star notStar

namespace Twins

theorem length_eq (twins : Twins region more other) :
    more.length = other.length := by
  cases twins <;> simp

/-- In code the rests begin with a line comment. -/
theorem head?_of_code (twins : Twins .code more other) :
    '-' ∈ more.head? ∧ '-' ∈ other.head? := by
  cases twins with
  | lineComment => exact ⟨rfl, rfl⟩

/-- In a block comment the rests do not begin with the end of a delimiter. -/
theorem head?_of_comment (twins : Twins .comment more other) :
    '/' ∉ more.head? ∧ '/' ∉ other.head? := by
  cases twins with
  | blockComment _ oldOther newOther =>
      constructor
      · rintro ⟨⟩
        exact oldOther (by decide)
      · rintro ⟨⟩
        exact newOther (by decide)

theorem alike_lex (twins : Twins region more other) :
    Alike region (lex region more) (lex region other) := by
  cases twins with
  | literal after oldOther newOther =>
      rw [lex_literal_cons oldOther, lex_literal_cons newOther]
      exact ⟨rfl, rfl, fun _ => rfl⟩
  | blockComment after oldOther newOther =>
      rw [lex_comment_cons_of_ne fun star =>
        oldOther (star ▸ List.mem_cons_self),
        lex_comment_cons_of_ne fun star => newOther (star ▸ List.mem_cons_self)]
      exact ⟨by rw [withBody_code, withBody_code], rfl, nofun⟩
  | lineComment body after =>
      refine ⟨?_, rfl, nofun⟩
      simp [lex]

end Twins

/-- Whatever comes before the replaced character on its line, the lexer goes on
alike after it. -/
theorem alike_lex_append (twins : Twins (lex region before).2 more other) :
    Alike (lex region before).2 (lex region (before ++ more))
      (lex region (before ++ other)) := by
  -- The lexer looks one character ahead.  Where nothing is left of the start of
  -- the line, it is the first characters of the rests that it sees.
  fun_induction lex region before with
  | case1 => exact twins.alike_lex
  | case2 => exact twins.alike_lex
  | case3 => exact twins.alike_lex
  | case4 body =>
      refine ⟨?_, rfl, ?_⟩
      · simp [lex, twins.length_eq]
      · intro inLiteral
        cases inLiteral
  | case5 rest lexed next read ih =>
      rw [read] at ih
      exact ((ih twins).withCode ' ').withCode ' '
  | case6 rest lexed next read ih =>
      rw [read] at ih
      exact (ih twins).withCode ' '
  | case7 character rest notLine notBlock notQuote lexed next read ih =>
      rw [read] at ih
      have heads : rest = [] → '-' ∈ more.head? ∧ '-' ∈ other.head? := by
        rintro rfl
        cases read
        exact twins.head?_of_code
      by_cases straddles : rest = [] ∧ character = '-'
      · obtain ⟨rfl, rfl⟩ := straddles
        cases read
        cases twins with
        | lineComment body after =>
            refine ⟨?_, rfl, ?_⟩
            · simp [lex]
            · intro inLiteral
              cases inLiteral
      · have step (line : Text) (head : rest = [] → '-' ∈ line.head?) :
            lex .code (character :: (rest ++ line)) =
              ((lex .code (rest ++ line)).1.withCode character,
                (lex .code (rest ++ line)).2) := by
          rw [lex]
          · intro body dash
            apply append_ne_cons
            · exact fun empty _ => straddles ⟨empty, dash⟩
            · exact fun _ => notLine _ dash
          · intro body slash
            apply append_ne_cons
            · exact fun empty star =>
                absurd (Option.mem_unique star (head empty)) (by decide)
            · exact fun _ => notBlock _ slash
          · exact notQuote
        rw [List.cons_append, List.cons_append,
          step more fun empty => (heads empty).1,
          step other fun empty => (heads empty).2]
        exact (ih twins).withCode character
  | case8 rest lexed next read ih =>
      rw [read] at ih
      exact ((ih twins).withCode ' ').withCode ' '
  | case9 rest single lexed next read ih =>
      rw [read] at ih
      have step (line : Text) (head : rest = [] → '-' ∈ line.head?) :
          lex .literal ('\'' :: (rest ++ line)) =
            ((lex .code (rest ++ line)).1.withCode
              ' ', (lex .code (rest ++ line)).2) := by
        rw [lex]
        apply append_ne_cons
        · exact fun empty quote =>
            absurd (Option.mem_unique quote (head empty)) (by decide)
        · exact single
      have heads : rest = [] → '-' ∈ more.head? ∧ '-' ∈ other.head? := by
        rintro rfl
        cases read
        exact twins.head?_of_code
      rw [List.cons_append, List.cons_append,
        step more fun empty => (heads empty).1,
        step other fun empty => (heads empty).2]
      exact (ih twins).withCode ' '
  | case10 character rest _ notQuote lexed next read ih =>
      rw [read] at ih
      rw [List.cons_append, List.cons_append, lex_literal_cons notQuote,
        lex_literal_cons notQuote]
      exact (ih twins).withCode ' '
  | case11 rest lexed next read ih =>
      rw [read] at ih
      exact (((ih twins).withCode ' ').withCode ' ').withComment []
  | case12 character rest notEnd lexed next read ih =>
      rw [read] at ih
      have step (line : Text) (head : rest = [] → '/' ∉ line.head?) :
          lex .comment (character :: (rest ++ line)) =
            ((lex .comment (rest ++ line)).1.withBody character,
              (lex .comment (rest ++ line)).2) := by
        rw [lex]
        intro _ star
        exact append_ne_cons head (fun _ => notEnd _ star) _
      have heads : rest = [] → '/' ∉ more.head? ∧ '/' ∉ other.head? := by
        rintro rfl
        cases read
        exact twins.head?_of_comment
      rw [List.cons_append, List.cons_append,
        step more fun empty => (heads empty).1,
        step other fun empty => (heads empty).2]
      exact (ih twins).withBody character

/-- A line that is lexed alike leaves the code of all lines as it is. -/
private theorem codeOnly_of_alike {earlier later : List Text}
    {line changed : Text}
    (alike : Alike place (lex (regionFrom .code earlier) line)
      (lex (regionFrom .code earlier) changed)) :
    codeOnly (earlier ++ changed :: later) =
      codeOnly (earlier ++ line :: later) := by
  rw [codeOnly, codeOnly, lexAll, lexAll, lexFrom_append, lexFrom_append]
  simp only [lexFrom, List.map_append, List.map_cons, alike.code, alike.region]

/-- After the start of a line the lexer is inside a literal.  The next character
decides about the region only where the start ends with the first half of a
delimiter, so that it is the second half; before any other character the start
is lexed as it is by itself. -/
def InLiteral (region : Region) (before : Text) : Prop :=
  (lex region before).2 = .literal

def InBlockComment (region : Region) (before : Text) : Prop :=
  (lex region before).2 = .comment

/-- A line comment begins in the start of the line. -/
def InLineComment (region : Region) (before : Text) : Prop :=
  ∃ start body, before = start ++ '-' :: '-' :: body ∧
    (lex region start).2 = .code

variable {old new : Char}

theorem InLiteral.alike (inLiteral : InLiteral region before)
    (oldOther : old ≠ '\'') (newOther : new ≠ '\'') (after : Text) :
    Alike .literal (lex region (before ++ old :: after))
      (lex region (before ++ new :: after)) := by
  rw [InLiteral] at inLiteral
  rw [← inLiteral]
  apply alike_lex_append
  rw [inLiteral]
  exact .literal after oldOther newOther

theorem InBlockComment.alike (inBlock : InBlockComment region before)
    (oldOther : old ∉ ['*', '/']) (newOther : new ∉ ['*', '/']) (after : Text) :
    Alike .comment (lex region (before ++ old :: after))
      (lex region (before ++ new :: after)) := by
  rw [InBlockComment] at inBlock
  rw [← inBlock]
  apply alike_lex_append
  rw [inBlock]
  exact .blockComment after oldOther newOther

theorem InLineComment.alike (inLine : InLineComment region before)
    (old new : Char) (after : Text) :
    Alike .code (lex region (before ++ old :: after))
      (lex region (before ++ new :: after)) := by
  obtain ⟨start, body, rfl, inCode⟩ := inLine
  rw [List.append_assoc, List.append_assoc, ← inCode]
  apply alike_lex_append
  rw [inCode]
  exact .lineComment body after

/-- A character of a literal that is no quote can be replaced by any other: all
lines are lexed as before, the directives are the same, and so is what becomes
of every finding.  A character of a line comment, or one of a block comment that
is part of no delimiter, can be replaced in the same way without a change to the
code of any line, and so to what the rules find. -/
theorem replaced_character_unseen (earlier later : List Text)
    (before after : Text) (old new : Char) :
    let region := regionFrom .code earlier
    let lines := earlier ++ (before ++ old :: after) :: later
    let changed := earlier ++ (before ++ new :: after) :: later
    (InLiteral region before → old ≠ '\'' → new ≠ '\'' →
      lexAll changed = lexAll lines ∧
      Suppressions.ofLines changed = Suppressions.ofLines lines ∧
      ∀ (rules : RuleSet) (unit : String),
        rules.evaluate unit (Suppressions.ofLines changed) changed =
          rules.evaluate unit (Suppressions.ofLines lines) lines) ∧
    (InLineComment region before ∨
        InBlockComment region before ∧ old ∉ ['*', '/'] ∧ new ∉ ['*', '/'] →
      codeOnly changed = codeOnly lines ∧
      ∀ rule : Rule, rule.check (codeOnly changed) =
        rule.check (codeOnly lines)) := by
  intro region lines changed
  constructor
  · intro inLiteral oldOther newOther
    have same := (inLiteral.alike oldOther newOther after).eq_of_literal
    have lexed : lexAll changed = lexAll lines := by
      rw [lexAll, lexAll, lexFrom_append, lexFrom_append]
      simp only [lexFrom, same, region]
    have directives : Suppressions.ofLines changed =
        Suppressions.ofLines lines := by
      have length : changed.length = lines.length := by simp [changed, lines]
      rw [Suppressions.ofLines, Suppressions.ofLines, Scan.ofLines,
        Scan.ofLines, Instruction.ofLines, Instruction.ofLines, lexed, length]
    refine ⟨lexed, directives, ?_⟩
    intro rules unit
    rw [directives, RuleSet.evaluate, RuleSet.evaluate, codeOnly, codeOnly,
      lexed]
  · intro inComment
    have code : codeOnly changed = codeOnly lines := by
      rcases inComment with inLine | ⟨inBlock, oldOther, newOther⟩
      · exact codeOnly_of_alike (inLine.alike old new after)
      · exact codeOnly_of_alike (inBlock.alike oldOther newOther after)
    refine ⟨code, ?_⟩
    intro rule
    rw [code]

/-- The literal and the comments run on from the line before; the new characters
look like the start of a comment, like an instruction and like code. -/
theorem replaced_character_unseen_across_lines :
    let text : List Text := ["SELECT 'a".toList]
    let noted : List Text := ["SELECT 1 /* a".toList]
    (InLiteral (regionFrom .code text) "b -".toList ∧
      Suppressions.ofLines (text ++
        [("b -".toList ++ '-' :: " sqllint-disable' * 2".toList)]) =
        Suppressions.ofLines (text ++
          [("b -".toList ++ '+' :: " sqllint-disable' * 2".toList)])) ∧
    (InLineComment (regionFrom .code text) "b' --".toList ∧
      codeOnly (text ++ ["b' --'*".toList]) =
        codeOnly (text ++ ["b' -- *".toList])) ∧
    (InBlockComment (regionFrom .code noted) "*".toList ∧
      codeOnly (noted ++ ["*'*/ + 2".toList]) =
        codeOnly (noted ++ ["*-*/ + 2".toList])) := by
  intro text noted
  have inLiteral : InLiteral (regionFrom .code text) "b -".toList := by
    unfold InLiteral
    decide
  have inLine : InLineComment (regionFrom .code text) "b' --".toList :=
    ⟨"b' ".toList, [], rfl, by decide⟩
  have inBlock : InBlockComment (regionFrom .code noted) "*".toList := by
    unfold InBlockComment
    decide
  have ofLiteral := (replaced_character_unseen text [] "b -".toList
    " sqllint-disable' * 2".toList '+' '-').1 inLiteral (by decide) (by decide)
  have ofLine := (replaced_character_unseen text [] "b' --".toList "*".toList
    ' ' '\'').2 (Or.inl inLine)
  have ofBlock := (replaced_character_unseen noted [] "*".toList "*/ + 2".toList
    '-' '\'').2 (Or.inr ⟨inBlock, by decide, by decide⟩)
  exact ⟨⟨inLiteral, ofLiteral.2.1⟩, ⟨inLine, ofLine.1⟩, ⟨inBlock, ofBlock.1⟩⟩

end QueryLint.LexedLine
