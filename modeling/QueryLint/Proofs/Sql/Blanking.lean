import Mathlib.Data.List.Forall2
import QueryLint.Sql.LexedLine

/-!
# The columns of code

The code of a line is as long as the line and has, in every column, the
character of the line or a blank.  Whatever is not blank in the code therefore
stands in the same column of the line.
-/

namespace QueryLint

/-- What code shows in the place of a character. -/
def Shows (shown character : Char) : Prop :=
  shown = character ∨ shown = ' '

theorem eq_of_forall₂_shows {shown text : Text}
    (shows : List.Forall₂ Shows shown text) (solid : ' ' ∉ shown) :
    shown = text := by
  induction shows with
  | nil => rfl
  | cons first _ ih =>
      obtain ⟨notBlank, later⟩ := List.ne_and_not_mem_of_not_mem_cons solid
      rcases first with same | blank
      · rw [same, ih later]
      · exact absurd blank.symm notBlank

theorem mem_or_blank_of_forall₂_shows {shown text : Text}
    (shows : List.Forall₂ Shows shown text) {character : Char}
    (member : character ∈ shown) : character ∈ text ∨ character = ' ' := by
  induction shows with
  | nil => cases member
  | cons first _ ih =>
      rcases List.mem_cons.mp member with rfl | later
      · rcases first with rfl | blank
        · exact Or.inl List.mem_cons_self
        · exact Or.inr blank
      · exact (ih later).imp_left (List.mem_cons_of_mem _)

namespace LexedLine

theorem withBody_code (character : Char) (line : LexedLine) :
    (line.withBody character).code = ' ' :: line.code := by
  cases comments : line.comments <;> simp [withBody, comments]

private theorem forall₂_replicate (text : Text) :
    List.Forall₂ Shows (List.replicate text.length ' ') text := by
  induction text with
  | nil => exact .nil
  | cons character rest ih => exact .cons (Or.inr rfl) ih

theorem forall₂_code (region : Region) (line : Text) :
    List.Forall₂ Shows (lex region line).1.code line := by
  have blank (character : Char) : Shows ' ' character := Or.inr rfl
  fun_induction lex region line with
  | case1 => exact .nil
  | case2 => exact .nil
  | case3 => exact .nil
  | case4 body => exact forall₂_replicate ('-' :: '-' :: body)
  | case5 rest lexed next read ih =>
      rw [read] at ih
      exact .cons (blank _) (.cons (blank _) ih)
  | case6 rest lexed next read ih =>
      rw [read] at ih
      exact .cons (blank _) ih
  | case7 character rest _ _ _ lexed next read ih =>
      rw [read] at ih
      exact .cons (Or.inl rfl) ih
  | case8 rest lexed next read ih =>
      rw [read] at ih
      exact .cons (blank _) (.cons (blank _) ih)
  | case9 rest _ lexed next read ih =>
      rw [read] at ih
      exact .cons (blank _) ih
  | case10 character rest _ _ lexed next read ih =>
      rw [read] at ih
      exact .cons (blank _) ih
  | case11 rest lexed next read ih =>
      rw [read] at ih
      exact .cons (blank _) (.cons (blank _) ih)
  | case12 character rest _ lexed next read ih =>
      rw [read] at ih
      rw [withBody_code]
      exact .cons (blank _) ih

theorem exists_lex_of_mem_lexFrom {region : Region} {lines : List Text}
    {lexed : LexedLine} (member : lexed ∈ lexFrom region lines) :
    ∃ start, ∃ line ∈ lines, lexed = (lex start line).1 := by
  induction lines generalizing region with
  | nil => cases member
  | cons line rest ih =>
      rcases List.mem_cons.mp member with here | later
      · exact ⟨region, line, List.mem_cons_self, here⟩
      · obtain ⟨start, other, inRest, same⟩ := ih later
        exact ⟨start, other, List.mem_cons_of_mem _ inRest, same⟩

theorem forall₂_map_code_lexFrom (region : Region) (lines : List Text) :
    List.Forall₂ (List.Forall₂ Shows)
      ((lexFrom region lines).map code) lines := by
  induction lines generalizing region with
  | nil => exact .nil
  | cons line rest ih => exact .cons (forall₂_code region line) (ih _)

end LexedLine

/-- In the code of a unit every line has its columns. -/
theorem forall₂_codeOnly (lines : List Text) :
    List.Forall₂ (List.Forall₂ Shows) (codeOnly lines) lines :=
  LexedLine.forall₂_map_code_lexFrom .code lines

end QueryLint
