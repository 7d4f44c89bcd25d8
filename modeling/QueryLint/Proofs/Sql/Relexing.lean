import QueryLint.Proofs.Sql.Blanking

/-!
# Code lexed again

Comments and literals leave blanks in their place, so that the characters that
stay never come together to begin a comment or a literal that was not there.
The code of a line is therefore plain, and a plain line is its own code.
-/

namespace QueryLint

/-- No literal and no comment begins on the line, if it begins in code. -/
structure Plain (line : Text) : Prop where
  quoteless : '\'' ∉ line
  dashless : ¬ ['-', '-'] <:+: line
  slashless : ¬ ['/', '*'] <:+: line

theorem prefix_of_forall₂_shows {sign shown text : Text}
    (shows : List.Forall₂ Shows shown text) (solid : ' ' ∉ sign)
    (starts : sign <+: shown) :
    sign <+: text := by
  obtain ⟨rest, same⟩ := starts
  have first := List.forall₂_take sign.length shows
  rw [← same, List.take_left] at first
  rw [eq_of_forall₂_shows first solid]
  exact List.take_prefix _ _

namespace Plain

theorem nil : Plain [] where
  quoteless := by simp
  dashless := by simp
  slashless := by simp

theorem cons {character : Char} {rest : Text} (notQuote : character ≠ '\'')
    (noLine : ¬ ['-', '-'] <+: character :: rest)
    (noBlock : ¬ ['/', '*'] <+: character :: rest) (plain : Plain rest) :
    Plain (character :: rest) where
  quoteless := by
    intro quote
    rcases List.mem_cons.mp quote with same | later
    · exact notQuote same.symm
    · exact plain.quoteless later
  dashless := by
    intro inside
    rcases List.infix_cons_iff.mp inside with starts | later
    · exact noLine starts
    · exact plain.dashless later
  slashless := by
    intro inside
    rcases List.infix_cons_iff.mp inside with starts | later
    · exact noBlock starts
    · exact plain.slashless later

theorem cons_blank {rest : Text} (plain : Plain rest) :
    Plain (' ' :: rest) := by
  apply plain.cons
  · simp
  · simp
  · simp

theorem replicate (count : Nat) : Plain (List.replicate count ' ') := by
  induction count with
  | zero => exact nil
  | succ count ih => exact ih.cons_blank

theorem tail {character : Char} {rest : Text}
    (plain : Plain (character :: rest)) :
    Plain rest where
  quoteless := fun quote => plain.quoteless (List.mem_cons_of_mem _ quote)
  dashless := fun inside => plain.dashless (List.infix_cons inside)
  slashless := fun inside => plain.slashless (List.infix_cons inside)

end Plain

namespace LexedLine

/-- What is left of a line is plain, wherever the line begins. -/
theorem plain_code (region : Region) (line : Text) :
    Plain (lex region line).1.code := by
  fun_induction lex region line with
  | case1 => exact .nil
  | case2 => exact .nil
  | case3 => exact .nil
  | case4 body => exact .replicate (body.length + 2)
  | case5 rest lexed next read ih =>
      rw [read] at ih
      exact ih.cons_blank.cons_blank
  | case6 rest lexed next read ih =>
      rw [read] at ih
      exact ih.cons_blank
  | case7 character rest notLine notBlock notQuote lexed next read ih =>
      have shows : List.Forall₂ Shows (character :: lexed.code)
          (character :: rest) := by
        have later := forall₂_code .code rest
        rw [read] at later
        exact .cons (Or.inl rfl) later
      rw [read] at ih
      -- Two characters that begin a comment in the code stand in the line as
      -- well.
      apply ih.cons
      · exact fun quote => notQuote quote
      · intro starts
        have inLine := prefix_of_forall₂_shows shows (by simp) starts
        obtain ⟨dash, next⟩ := List.cons_prefix_cons.mp inLine
        obtain ⟨body, same⟩ := next
        exact notLine body dash.symm same.symm
      · intro starts
        have inLine := prefix_of_forall₂_shows shows (by simp) starts
        obtain ⟨slash, next⟩ := List.cons_prefix_cons.mp inLine
        obtain ⟨body, same⟩ := next
        exact notBlock body slash.symm same.symm
  | case8 rest lexed next read ih =>
      rw [read] at ih
      exact ih.cons_blank.cons_blank
  | case9 rest _ lexed next read ih =>
      rw [read] at ih
      exact ih.cons_blank
  | case10 character rest _ _ lexed next read ih =>
      rw [read] at ih
      exact ih.cons_blank
  | case11 rest lexed next read ih =>
      rw [read] at ih
      exact ih.cons_blank.cons_blank
  | case12 character rest _ lexed next read ih =>
      rw [read] at ih
      rw [withBody_code]
      exact ih.cons_blank

/-- A plain line is code from end to end. -/
theorem lex_of_plain {line : Text} (plain : Plain line) :
    lex .code line = (⟨line, []⟩, .code) := by
  induction line with
  | nil => rfl
  | cons character rest ih =>
      have later := ih plain.tail
      rw [lex, later]
      · rfl
      · intro body dash same
        apply plain.dashless
        rw [dash, same]
        exact List.IsPrefix.isInfix ⟨body, rfl⟩
      · intro body slash same
        apply plain.slashless
        rw [slash, same]
        exact List.IsPrefix.isInfix ⟨body, rfl⟩
      · intro quote
        apply plain.quoteless
        rw [quote]
        exact List.mem_cons_self

theorem lexAll_of_plain {lines : List Text}
    (plain : ∀ line ∈ lines, Plain line) :
    lexAll lines = lines.map fun line => ⟨line, []⟩ := by
  induction lines with
  | nil => rfl
  | cons line rest ih =>
      obtain ⟨first, later⟩ := List.forall_mem_cons.mp plain
      rw [lexAll] at ih ⊢
      simp [lexFrom, lex_of_plain first, ih later]

end LexedLine

theorem plain_of_mem_codeOnly {lines : List Text} {code : Text}
    (member : code ∈ codeOnly lines) : Plain code := by
  obtain ⟨lexed, inLines, same⟩ := List.mem_map.mp member
  obtain ⟨start, line, -, lexes⟩ := LexedLine.exists_lex_of_mem_lexFrom inLines
  rw [← same, lexes]
  exact LexedLine.plain_code start line

/-- Code has the lines and the columns of the text, with the text's characters
or blanks in them.  No literal and no comment begins in it, so that it is lexed
to itself. -/
theorem codeOnly_fixed (lines : List Text) :
    (codeOnly lines).length = lines.length ∧
    List.Forall₂ (fun code line => code.length = line.length ∧
      List.Forall₂ Shows code line)
      (codeOnly lines) lines ∧
    (∀ code ∈ codeOnly lines,
      '\'' ∉ code ∧ ¬ ['-', '-'] <:+: code ∧ ¬ ['/', '*'] <:+: code) ∧
    LexedLine.lexAll (codeOnly lines) =
      (codeOnly lines).map (fun code => ⟨code, []⟩) ∧
    codeOnly (codeOnly lines) = codeOnly lines := by
  have columns := forall₂_codeOnly lines
  have plain : ∀ code ∈ codeOnly lines, Plain code :=
    fun _ => plain_of_mem_codeOnly
  have again := LexedLine.lexAll_of_plain plain
  refine ⟨columns.length_eq, ?_, ?_, again, ?_⟩
  · apply columns.imp
    intro code line shows
    exact ⟨shows.length_eq, shows⟩
  · intro code member
    obtain ⟨quoteless, dashless, slashless⟩ := plain code member
    exact ⟨quoteless, dashless, slashless⟩
  · rw [codeOnly, again, List.map_map]
    exact List.map_id _

end QueryLint
