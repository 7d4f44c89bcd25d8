import QueryLint.Proofs.Sql.Lexing

/-!
# More text at the end of a line

A line that ends in code, and on which no line comment begins, can be followed
by a space and more text: the line is lexed as before, and the rest as if it
were a line of its own.  The lines after it are lexed as before unless the new
text leaves code.
-/

namespace QueryLint.LexedLine

/-- The region in which a line begins that comes after the given lines, of which
the first begins in the given region. -/
def regionFrom (region : Region) (lines : List Text) : Region :=
  lines.foldl (fun region line => (lex region line).2) region

/-- No line comment begins on the line: two hyphens never stand where the text
before them ends in code. -/
def Uncommented (region : Region) (line : Text) : Prop :=
  ∀ before body, line = before ++ '-' :: '-' :: body →
    (lex region before).2 ≠ .code

instance (region : Region) (line : Text) :
    Decidable (Uncommented region line) :=
  decidable_of_iff
    (∀ index < line.length, ['-', '-'] <+: line.drop index →
      (lex region (line.take index)).2 ≠ .code) <| by
    constructor
    · rintro checked before body rfl
      have here := checked before.length
      simpa using here
    · rintro uncommented index - ⟨body, split⟩
      have whole := List.take_append_drop index line
      rw [← split] at whole
      exact uncommented (line.take index) body whole.symm

private theorem Uncommented.step {region next : Region} {rest : Text}
    (piece : Text) (uncommented : Uncommented region (piece ++ rest))
    (steps : ∀ before, before <+: rest →
      (lex region (piece ++ before)).2 = (lex next before).2) :
    Uncommented next rest := by
  rintro before body rfl
  rw [← steps before (List.prefix_append _ _)]
  exact uncommented (piece ++ before) body (List.append_assoc _ _ _).symm

private theorem comments_lex_comment_ne_nil (line : Text) :
    (lex .comment line).1.comments ≠ [] := by
  have begun (character : Char) (lexed : LexedLine) :
      (lexed.withBody character).comments ≠ [] := by
    unfold withBody
    split <;> exact List.cons_ne_nil _ _
  cases line with
  | nil => exact List.cons_ne_nil _ _
  | cons character rest =>
      unfold lex
      split
      all_goals first
        | exact List.cons_ne_nil _ _
        | exact begun _ _
        | cases ‹Region.comment = _›

private theorem withBody_append {first : LexedLine}
    (begun : first.comments ≠ []) (character : Char) (second : LexedLine) :
    (first ++ second).withBody character =
      first.withBody character ++ second := by
  obtain ⟨code, comments⟩ := first
  cases comments with
  | nil => exact absurd rfl begun
  | cons body later => rfl

section Step

variable {character : Char} {rest more : Text}

/-- What does not begin the rest of a line does not begin it with more text
after it, nor with less. -/
private theorem ne_cons_of_prefix {before : Text}
    (other : ∀ later, rest = character :: later → False)
    (shorter : before <+: rest) (later : Text) :
    before ≠ character :: later := by
  rintro rfl
  obtain ⟨after, rfl⟩ := shorter
  exact other _ rfl

theorem append_ne_cons (apart : rest = [] → character ∉ more.head?)
    (other : ∀ later, rest = character :: later → False) (later : Text) :
    rest ++ more ≠ character :: later := by
  intro same
  cases rest with
  | nil =>
      rw [List.nil_append] at same
      exact apart rfl (List.head?_eq_some_iff.mpr ⟨later, same⟩)
  | cons first rest =>
      obtain ⟨rfl, -⟩ := List.cons.inj same
      exact other rest rfl

private theorem append_ne_cons_of_blank (apart : ' ' ∈ more.head?)
    (solid : character ≠ ' ')
    (other : ∀ later, rest = character :: later → False) (later : Text) :
    rest ++ more ≠ character :: later :=
  append_ne_cons (fun _ starts => solid (Option.mem_unique starts apart)) other
    later

end Step

theorem lex_append {region : Region} {line more : Text}
    (ends : (lex region line).2 = .code) (uncommented : Uncommented region line)
    (apart : ' ' ∈ more.head?) :
    lex region (line ++ more) =
      ((lex region line).1 ++ (lex .code more).1, (lex .code more).2) := by
  -- The lexer looks one character ahead.  The cases in which it does so need
  -- that it sees no delimiter there, neither with more text on the line nor
  -- with less.
  fun_induction lex region line with
  | case1 => rfl
  | case2 => cases ends
  | case3 => cases ends
  | case4 body => exact absurd rfl (uncommented [] body rfl)
  | case5 rest lexed next read ih =>
      rw [read] at ih
      have later := ih ends (uncommented.step ['/', '*'] fun _ _ => rfl)
      simp only [List.cons_append, lex, later]
      rfl
  | case6 rest lexed next read ih =>
      rw [read] at ih
      have later := ih ends (uncommented.step ['\''] fun _ _ => rfl)
      simp only [List.cons_append, lex, later]
      rfl
  | case7 character rest notLine notBlock notQuote lexed next read ih =>
      have later : Uncommented .code rest := by
        apply uncommented.step [character]
        intro before shorter
        rw [List.singleton_append, lex]
        · exact fun _ dash =>
            ne_cons_of_prefix (fun _ => notLine _ dash) shorter _
        · exact fun _ slash =>
            ne_cons_of_prefix (fun _ => notBlock _ slash) shorter _
        · exact notQuote
      rw [read] at ih
      rw [List.cons_append, lex, ih ends later]
      · rfl
      · exact fun _ dash =>
          append_ne_cons_of_blank apart (by decide) (fun _ => notLine _ dash) _
      · exact fun _ slash =>
          append_ne_cons_of_blank apart (by decide)
            (fun _ => notBlock _ slash) _
      · exact notQuote
  | case8 rest lexed next read ih =>
      rw [read] at ih
      have later := ih ends (uncommented.step ['\'', '\''] fun _ _ => rfl)
      simp only [List.cons_append, lex, later]
      rfl
  | case9 rest single lexed next read ih =>
      have later : Uncommented .code rest := by
        apply uncommented.step ['\'']
        intro before shorter
        rw [List.singleton_append, lex]
        exact ne_cons_of_prefix single shorter
      rw [read] at ih
      rw [List.cons_append, lex, ih ends later]
      · rfl
      · exact append_ne_cons_of_blank apart (by decide) single
  | case10 character rest notDoubled notQuote lexed next read ih =>
      have later : Uncommented .literal rest := by
        apply uncommented.step [character]
        intro before _
        rw [List.singleton_append, lex]
        · exact fun _ quote => absurd quote notQuote
        · exact notQuote
      rw [read] at ih
      rw [List.cons_append, lex, ih ends later]
      · rfl
      · exact fun _ quote => absurd quote notQuote
      · exact notQuote
  | case11 rest lexed next read ih =>
      rw [read] at ih
      have later := ih ends (uncommented.step ['*', '/'] fun _ _ => rfl)
      simp only [List.cons_append, lex, later]
      rfl
  | case12 character rest notEnd lexed next read ih =>
      have later : Uncommented .comment rest := by
        apply uncommented.step [character]
        intro before shorter
        rw [List.singleton_append, lex]
        exact fun _ star => ne_cons_of_prefix (fun _ => notEnd _ star) shorter _
      have begun := comments_lex_comment_ne_nil rest
      rw [read] at ih begun
      rw [List.cons_append, lex, ih ends later]
      · exact congrArg (·, _) (withBody_append begun character _)
      · exact fun _ star =>
          append_ne_cons_of_blank apart (by decide) (fun _ => notEnd _ star) _

theorem lexFrom_append (region : Region) (first second : List Text) :
    lexFrom region (first ++ second) =
      lexFrom region first ++ lexFrom (regionFrom region first) second := by
  induction first generalizing region with
  | nil => rfl
  | cons line first ih => exact congrArg ((lex region line).1 :: ·) (ih _)

/-- More text on a line comes after what the line has without it, and makes no
difference to any other line. -/
theorem lexAll_append_line {earlier later : List Text} {line more : Text}
    {lexed : LexedLine}
    (ends : (lex (regionFrom .code earlier) line).2 = .code)
    (uncommented : Uncommented (regionFrom .code earlier) line)
    (apart : ' ' ∈ more.head?) (lexes : lex .code more = (lexed, .code)) :
    ∃ before own after, before.length = earlier.length ∧
      lexAll (earlier ++ line :: later) = before ++ own :: after ∧
      lexAll (earlier ++ (line ++ more) :: later) =
        before ++ (own ++ lexed) :: after := by
  have cons (region : Region) (line : Text) (later : List Text) :
      lexFrom region (line :: later) =
        (lex region line).1 :: lexFrom (lex region line).2 later := rfl
  refine ⟨lexFrom .code earlier, (lex (regionFrom .code earlier) line).1,
    lexFrom .code later, length_lexFrom _ _, ?_, ?_⟩
  · rw [lexAll, lexFrom_append, cons, ends]
  · rw [lexAll, lexFrom_append, cons, lex_append ends uncommented apart, lexes]

end QueryLint.LexedLine
