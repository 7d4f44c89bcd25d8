import QueryLint.Proofs.Sql.Blanking
import QueryLint.Proofs.Text.Lowering
import QueryLint.Suppression.Scan

/-!
# Directives in any letter case

Lexing a lowered line gives the lowered code and the lowered comments, and an
instruction in a lowered comment is the instruction in the comment.  The
directives of a unit are therefore those of its lowered lines.
-/

namespace QueryLint

namespace LexedLine

/-- The line with its code and its comments lowered. -/
def lowered (line : LexedLine) : LexedLine :=
  ⟨Text.lower line.code, line.comments.map Text.lower⟩

theorem lowered_withBody (line : LexedLine) (character : Char) :
    (line.withBody character).lowered =
      line.lowered.withBody character.toLower := by
  cases comments : line.comments <;>
    simp [withBody, lowered, comments, Text.lower]

theorem lex_lower (region : Region) (line : Text) :
    lex region (Text.lower line) =
      ((lex region line).1.lowered, (lex region line).2) := by
  fun_induction lex region line with
  | case1 => rfl
  | case2 => rfl
  | case3 => rfl
  | case4 body =>
      change lex .code ('-' :: '-' :: Text.lower body) = _
      simp [lex, lowered, Text.lower]
  | case5 rest lexed next read ih =>
      change lex .code ('/' :: '*' :: Text.lower rest) = _
      rw [lex, ih, read]
      rfl
  | case6 rest lexed next read ih =>
      change lex .code ('\'' :: Text.lower rest) = _
      rw [lex, ih, read]
      rfl
  | case7 character rest notLine notBlock notQuote lexed next read ih =>
      change lex .code (character.toLower :: Text.lower rest) = _
      rw [lex, ih, read]
      · rfl
      · intro body dash second
        obtain ⟨after, dashNext⟩ :=
          Text.exists_of_lower_eq_cons second (by decide)
        exact notLine after (Text.eq_of_toLower_eq dash (by decide)) dashNext
      · intro body slash second
        obtain ⟨after, starNext⟩ :=
          Text.exists_of_lower_eq_cons second (by decide)
        exact notBlock after (Text.eq_of_toLower_eq slash (by decide)) starNext
      · exact fun quote => notQuote (Text.eq_of_toLower_eq quote (by decide))
  | case8 rest lexed next read ih =>
      change lex .literal ('\'' :: '\'' :: Text.lower rest) = _
      rw [lex, ih, read]
      rfl
  | case9 rest notDouble lexed next read ih =>
      change lex .literal ('\'' :: Text.lower rest) = _
      rw [lex, ih, read]
      · rfl
      · intro body second
        obtain ⟨after, quoteNext⟩ :=
          Text.exists_of_lower_eq_cons second (by decide)
        exact notDouble after quoteNext
  | case10 character rest notDouble notQuote lexed next read ih =>
      change lex .literal (character.toLower :: Text.lower rest) = _
      have kept : character.toLower ≠ '\'' :=
        fun quote => notQuote (Text.eq_of_toLower_eq quote (by decide))
      rw [lex, ih, read]
      · rfl
      · exact fun _ quote _ => kept quote
      · exact kept
  | case11 rest lexed next read ih =>
      change lex .comment ('*' :: '/' :: Text.lower rest) = _
      rw [lex, ih, read]
      rfl
  | case12 character rest notEnd lexed next read ih =>
      change lex .comment (character.toLower :: Text.lower rest) = _
      rw [lex, ih, read, lowered_withBody]
      intro body star second
      obtain ⟨after, slashNext⟩ :=
        Text.exists_of_lower_eq_cons second (by decide)
      exact notEnd after (Text.eq_of_toLower_eq star (by decide)) slashNext

theorem lexFrom_lower (region : Region) (lines : List Text) :
    lexFrom region (lines.map Text.lower) =
      (lexFrom region lines).map lowered := by
  induction lines generalizing region with
  | nil => rfl
  | cons line rest ih =>
      change (lex region (Text.lower line)).1 ::
        lexFrom (lex region (Text.lower line)).2 (rest.map Text.lower) = _
      rw [lex_lower, ih]
      rfl

end LexedLine

theorem codeOnly_lower (lines : List Text) :
    codeOnly (lines.map Text.lower) = (codeOnly lines).map Text.lower := by
  rw [codeOnly, LexedLine.lexAll, LexedLine.lexFrom_lower, List.map_map,
    codeOnly, List.map_map]
  rfl

namespace Selector

theorem ofList_lower (names : Text) :
    ofList (Text.lower names) = ofList names := by
  have caseless (character : Char) :
      (character.toLower == ',' || Text.isBlank character.toLower) =
        (character == ',' || Text.isBlank character) := by
    rw [Text.toLower_beq (by decide) (by decide), Text.isBlank_toLower]
  have star (words : List Text) :
      (words.map Text.lower).contains ['*'] = words.contains ['*'] := by
    rw [Bool.eq_iff_iff, List.contains_iff_mem, List.contains_iff_mem,
      List.mem_map]
    simp only [Text.lower_eq_singleton_iff (by decide : '*'.toNat < 97 ∨ _) rfl,
      exists_eq_right]
  have named (words : List Text) : (words.map Text.lower).map ofName =
      words.map ofName := by
    rw [List.map_map]
    exact List.map_congr_left fun word _ =>
      congrArg named (Text.lower_lower word)
  have solid : (fun word : Text => !word.isEmpty) ∘ Text.lower = fun word =>
      !word.isEmpty :=
    funext fun word => congrArg not List.isEmpty_map
  rw [ofList, ofList, Text.splitOn_lower caseless, List.filter_map, solid]
  simp only [star, named, List.isEmpty_map]

end Selector

namespace Instruction

theorem spelled_lower (keyword text : Text) :
    spelled keyword (Text.lower text) = spelled keyword text := by
  have taken : (Text.lower text).take keyword.length =
      Text.lower (text.take keyword.length) := List.map_take.symm
  rw [spelled, spelled, taken, Text.lower_lower]

theorem action?_lower (text : Text) (actions : List Action) :
    action? (Text.lower text) actions =
      (action? text actions).map fun read => (read.1, Text.lower read.2) := by
  induction actions with
  | nil => rfl
  | cons action others ih =>
      rw [action?, action?, Text.afterKeyword?_lower]
      cases Text.afterKeyword? action.keyword.toList text with
      | none => exact ih
      | some rest =>
          simp only [Option.map_some, Text.endsWord_lower, spelled_lower]
          split
          · rfl
          · exact ih

theorem ofComment?_lower (body : Text) :
    ofComment? (Text.lower body) = ofComment? body := by
  rw [ofComment?, ofComment?, Text.trimStart_lower, Text.afterKeyword?_lower]
  cases Text.afterKeyword? opening.toList (Text.trimStart body) with
  | none => rfl
  | some text =>
      simp only [Option.map_some, action?_lower]
      cases action? text Action.all with
      | none => rfl
      | some read =>
          obtain ⟨action, rest⟩ := read
          cases action with
          | none => rfl
          | some action =>
              simp only [Option.map_some,
                Text.contains_lower (by decide : '\n'.toNat < 97 ∨ _) rfl,
                Selector.ofList_lower]

theorem ofLines_lower (lines : List Text) :
    ofLines (lines.map Text.lower) = ofLines lines := by
  have body (line : LexedLine) : line.lowered.comments.filterMap ofComment? =
      line.comments.filterMap ofComment? := by
    rw [LexedLine.lowered, List.filterMap_map]
    exact congrArg line.comments.filterMap (funext ofComment?_lower)
  rw [ofLines, ofLines, LexedLine.lexAll, LexedLine.lexFrom_lower,
    List.zipIdx_map, List.flatMap_map]
  simp only [Prod.map, body]
  rfl

end Instruction

/-- The directives of a unit are those of its lowered lines. -/
theorem Suppressions.ofLines_lower (lines : List Text) :
    ofLines (lines.map Text.lower) = ofLines lines := by
  rw [ofLines, ofLines, Scan.ofLines, Scan.ofLines, Instruction.ofLines_lower,
    List.length_map]

end QueryLint
