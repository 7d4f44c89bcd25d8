import QueryLint.Proofs.Sql.Lexing

/-!
# Characters and what they belong to

Every character of a text belongs to code, to a literal or to a comment, as its
token tells.  Code shows the first of these and line feeds as they are, and a
blank for any other.
-/

namespace QueryLint

namespace Token

/-- What the characters of the token belong to. -/
def region : Token → Region
  | plain _ => .code
  | lineComment _ => .comment
  | blockComment _ _ => .comment
  | literal _ _ => .literal

/-- The characters of the token, each with what it belongs to. -/
def marks (token : Token) : List (Region × Char) :=
  token.source.map fun character => (token.region, character)

/-- What the code shows in the place of a marked character. -/
def shown (mark : Region × Char) : Char :=
  if mark.1 = .code ∨ mark.2 = '\n' then mark.2 else ' '

theorem blanked_eq_map_shown {region : Region} (notCode : region ≠ .code)
    (text : Text) :
    blanked text = (text.map fun character => (region, character)).map
      shown := by
  rw [List.map_map]
  apply List.map_congr_left
  intro character _
  by_cases feed : character = '\n'
  · simp [shown, feed]
  · simp [shown, notCode, feed]

/-- What a token leaves of a text's code, character by character. -/
theorem shade_eq_map_shown (token : Token) :
    token.shade = token.marks.map shown := by
  cases token with
  | plain character => simp [shade, marks, source, shown, region]
  | lineComment body => exact blanked_eq_map_shown (by simp [region]) _
  | blockComment body closed => exact blanked_eq_map_shown (by simp [region]) _
  | literal content closed => exact blanked_eq_map_shown (by simp [region]) _

theorem isBlank_shown_iff (mark : Region × Char) :
    Text.isBlank (shown mark) = false ↔
      mark.1 = .code ∧ Text.isBlank mark.2 = false := by
  rw [shown]
  by_cases code : mark.1 = .code
  · simp [code]
  · by_cases feed : mark.2 = '\n'
    · simp [code, feed]
      decide
    · simp [code, feed]
      decide

end Token

theorem intercalate_codeOnly {lines : List Text}
    (feedless : ∀ line ∈ lines, '\n' ∉ line) :
    ['\n'].intercalate (codeOnly lines) =
      ((Token.ofText (['\n'].intercalate lines)).flatMap Token.marks).map
        Token.shown := by
  by_cases empty : lines = []
  · subst empty
    change [] = List.map _ ((Token.ofText []).flatMap _)
    rw [Token.ofText_nil]
    rfl
  · have read := (LexedLine.Reads.tokens
      (tokenizes_iff.mpr
        (Eq.refl (Token.ofText (['\n'].intercalate lines))))).code
    rw [LexedLine.lexText, List.splitOn_intercalate '\n' feedless empty] at read
    rw [List.map_flatMap, ← funext Token.shade_eq_map_shown, ← read]
    rfl

end QueryLint
