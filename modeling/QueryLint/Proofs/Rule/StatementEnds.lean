import Mathlib.Data.List.DropRight
import QueryLint.Proofs.Content.Lines
import QueryLint.Proofs.Rule.Findings
import QueryLint.Proofs.Sql.Marks
import QueryLint.Proofs.Text.Blanks

/-!
# Where a semicolon is missing

The rule about semicolons sees blanks in the place of comments and literals, and
takes both for white space.  So it finds the end of the code, and this is the
end of the last statement unless the statement ends with a literal.  Texts are
taken apart at their last character, as the rule reads them.
-/

namespace QueryLint

namespace SemicolonTermination

/-- The place behind a text, where a semicolon is expected. -/
def behind (text : Text) : Finding :=
  ⟨text.count '\n' + 1, (text.rtakeWhile (· != '\n')).length + 1,
    "Expected semicolon at end of statement"⟩

/-- What is missing behind the last of the characters, if there is one. -/
def missing (marks : List (Region × Char)) : List Finding :=
  match marks.getLast? with
  | none => []
  | some last =>
      if last = (.code, ';') then [] else [behind (marks.map Prod.snd)]

/-- The characters up to the last one that is of the regions and not white
space. -/
def upToLast (regions : List Region) (marks : List (Region × Char)) :
    List (Region × Char) :=
  marks.rdropWhile fun mark => mark.1 ∉ regions || Text.isBlank mark.2

theorem missing_concat (marks : List (Region × Char)) (last : Region × Char) :
    missing (marks ++ [last]) =
      if last = (.code, ';') then []
      else [behind ((marks ++ [last]).map Prod.snd)] := by
  rw [missing, List.getLast?_concat]

theorem missing_map_code (text : Text) :
    missing (text.map fun character => (Region.code, character)) =
      match text.getLast? with
      | none => []
      | some last => if last = ';' then [] else [behind text] := by
  have same : (text.map fun character => (Region.code, character)).map
      Prod.snd = text := by
    simp [Function.comp_def]
  rw [missing, List.getLast?_map, same]
  cases text.getLast? <;> simp

theorem behind_feed (text : Text) :
    behind (text ++ ['\n']) =
      ⟨(behind text).line + 1, 1, (behind text).message⟩ := by
  have start : (text ++ ['\n']).rtakeWhile (· != '\n') = [] :=
    List.rtakeWhile_concat_neg _ _ _ (by decide)
  rw [behind, start, List.count_append]
  rfl

theorem behind_concat {character : Char} (other : character ≠ '\n')
    (text : Text) :
    behind (text ++ [character]) =
      ⟨(behind text).line, (behind text).column + 1,
        (behind text).message⟩ := by
  have longer : (text ++ [character]).rtakeWhile (· != '\n') =
      text.rtakeWhile (· != '\n') ++ [character] :=
    List.rtakeWhile_concat_pos _ _ _ (bne_iff_ne.mpr other)
  rw [behind, longer, List.count_append, List.count_singleton,
    if_neg (by simpa using other), List.length_append]
  rfl

theorem behind_append {part : Text} (feedless : '\n' ∉ part) (text : Text) :
    behind (text ++ part) =
      ⟨(behind text).line, (behind text).column + part.length,
        (behind text).message⟩ := by
  induction part using List.reverseRecOn with
  | nil => rw [List.append_nil]; rfl
  | append_singleton part character ih =>
      obtain ⟨without, other⟩ : '\n' ∉ part ∧ character ≠ '\n' := by
        simpa [eq_comm] using feedless
      rw [← List.append_assoc, behind_concat other, ih without,
        List.length_append]
      rfl

theorem precedes_behind_concat (text : Text) (character : Char) :
    (behind text).Precedes (behind (text ++ [character])) := by
  by_cases feed : character = '\n'
  · rw [feed, behind_feed]
    exact Or.inl (Nat.lt_succ_self _)
  · rw [behind_concat feed]
    exact Or.inr ⟨rfl, Nat.lt_succ_self _⟩

/-- The place behind a longer text is further on. -/
theorem precedes_behind_append (text : Text) {more : Text}
    (longer : more ≠ []) :
    (behind text).Precedes (behind (text ++ more)) := by
  induction more using List.reverseRecOn with
  | nil => exact absurd rfl longer
  | append_singleton more character ih =>
      have step := precedes_behind_concat (text ++ more) character
      rw [← List.append_assoc]
      cases more with
      | nil =>
          rw [List.append_nil] at step ⊢
          exact step
      | cons first more => exact (ih (List.cons_ne_nil _ _)).trans step

/-- The text of lines, each with a line feed behind it. -/
def ended (lines : List Text) : Text :=
  lines.flatMap fun line => line ++ ['\n']

theorem ended_concat (above : List Text) (line : Text) :
    ended (above ++ [line]) = ended above ++ line ++ ['\n'] := by
  simp [ended]

theorem behind_ended {lines : List Text}
    (feedless : ∀ line ∈ lines, '\n' ∉ line) :
    behind (ended lines) =
      ⟨lines.length + 1, 1, "Expected semicolon at end of statement"⟩ := by
  induction lines using List.reverseRecOn with
  | nil => rfl
  | append_singleton above line ih =>
      obtain ⟨feedlessAbove, feedlessLine⟩ := List.forall_mem_append.mp feedless
      rw [ended_concat, behind_feed,
        behind_append (feedlessLine line (List.mem_singleton_self _)),
        ih feedlessAbove, List.length_append]
      rfl

theorem lastStatement?_concat (above : List Text) (line : Text) :
    lastStatement? (above ++ [line]) =
      if Text.allBlank line then lastStatement? above
      else some (line, above.length + 1) := by
  rw [lastStatement?, List.zipIdx_append, List.reverse_append, Nat.add_comm 1]
  cases blank : Text.allBlank line with
  | true => simp [blank, lastStatement?]
  | false => simp [blank]

/-- The rule finds what is missing behind the last character of the text of the
lines. -/
theorem check_eq_missing {lines : List Text}
    (feedless : ∀ line ∈ lines, '\n' ∉ line) :
    check lines = missing ((Text.trimEnd (ended lines)).map
      fun character => (Region.code, character)) := by
  induction lines using List.reverseRecOn with
  | nil => rfl
  | append_singleton above line ih =>
      obtain ⟨feedlessAbove, feedlessLine⟩ := List.forall_mem_append.mp feedless
      have lineEnd : Text.allBlank ['\n'] = true := by decide
      rw [ended_concat, Text.trimEnd_append_of_allBlank lineEnd]
      cases blank : Text.allBlank line with
      | true =>
          rw [Text.trimEnd_append_of_allBlank blank, ← ih feedlessAbove, check,
            check, lastStatement?_concat, if_pos blank]
      | false =>
          have feedlessTrimmed : '\n' ∉ Text.trimEnd line := by
            obtain ⟨blanks, -, same⟩ := Text.exists_trimEnd_append line
            intro feed
            apply feedlessLine line (List.mem_singleton_self _)
            rw [← same]
            exact List.mem_append_left _ feed
          obtain ⟨last, isLast⟩ : ∃ last,
              (Text.trimEnd line).getLast? = some last :=
            ⟨_, List.getLast?_eq_some_getLast (Text.trimEnd_ne_nil blank)⟩
          rw [check, lastStatement?_concat, if_neg (Bool.eq_false_iff.mp blank),
            Text.trimEnd_append blank, missing_map_code,
            behind_append feedlessTrimmed, behind_ended feedlessAbove,
            List.getLast?_append, isLast]
          simp [isLast, Nat.add_comm]

theorem upToLast_concat (regions : List Region) (marks : List (Region × Char))
    (last : Region × Char) :
    upToLast regions (marks ++ [last]) =
      if last.1 ∈ regions ∧ Text.isBlank last.2 = false then marks ++ [last]
      else upToLast regions marks := by
  rw [upToLast, List.rdropWhile_concat]
  by_cases counts : last.1 ∈ regions ∧ Text.isBlank last.2 = false
  · simp [counts]
  · rw [if_neg counts, if_pos]
    · rfl
    · simpa [or_iff_not_imp_left] using counts

theorem counts_of_getLast?_upToLast {regions : List Region}
    {marks : List (Region × Char)} {last : Region × Char}
    (isLast : (upToLast regions marks).getLast? = some last) :
    last.1 ∈ regions ∧ Text.isBlank last.2 = false := by
  induction marks using List.reverseRecOn with
  | nil => cases isLast
  | append_singleton marks mark ih =>
      rw [upToLast_concat] at isLast
      split at isLast
      · next counts =>
          rw [List.getLast?_concat] at isLast
          cases isLast
          exact counts
      · exact ih isLast

/-- Where code counts alone, trimming what it shows is trimming the
characters. -/
theorem trimEnd_map_shown (marks : List (Region × Char)) :
    Text.trimEnd (marks.map Token.shown) =
      (upToLast [.code] marks).map Token.shown := by
  induction marks using List.reverseRecOn with
  | nil => rfl
  | append_singleton marks mark ih =>
      rw [List.map_append, List.map_singleton, Text.trimEnd_concat,
        upToLast_concat, ih]
      have counts := Token.isBlank_shown_iff mark
      by_cases code : mark.1 = .code ∧ Text.isBlank mark.2 = false
      · simp [counts.mpr code, code]
      · rw [if_pos (by simpa using mt counts.mp code),
          if_neg (by simpa using code)]

theorem behind_map_shown (marks : List (Region × Char)) :
    behind (marks.map Token.shown) = behind (marks.map Prod.snd) := by
  induction marks using List.reverseRecOn with
  | nil => rfl
  | append_singleton marks mark ih =>
      rw [List.map_append, List.map_singleton, List.map_append,
        List.map_singleton]
      by_cases feed : mark.2 = '\n'
      · rw [Token.shown, if_pos (Or.inr feed), feed, behind_feed,
          behind_feed, ih]
      · have other : Token.shown mark ≠ '\n' := by
          rw [Token.shown]
          split
          · exact feed
          · decide
        rw [behind_concat other, behind_concat feed, ih]

/-- The rule finds what is missing behind the last character of code. -/
theorem missing_map_shown (marks : List (Region × Char)) :
    missing ((Text.trimEnd (marks.map Token.shown)).map
      fun character => (Region.code, character)) =
      missing (upToLast [.code] marks) := by
  rw [missing_map_code, trimEnd_map_shown, behind_map_shown, List.getLast?_map,
    missing]
  cases isLast : (upToLast [.code] marks).getLast? with
  | none => rfl
  | some last =>
      obtain ⟨region, character⟩ := last
      obtain rfl : region = .code :=
        List.mem_singleton.mp (counts_of_getLast?_upToLast isLast).1
      simp [Token.shown]

/-- A statement goes on behind its code if it ends with a literal. -/
theorem upToLast_cases (marks : List (Region × Char)) :
    upToLast [.code, .literal] marks = upToLast [.code] marks ∨
      ∃ character more, upToLast [.code, .literal] marks =
        upToLast [.code] marks ++ (more ++ [(.literal, character)]) := by
  induction marks using List.reverseRecOn with
  | nil => exact Or.inl rfl
  | append_singleton marks mark ih =>
      obtain ⟨region, character⟩ := mark
      rw [upToLast_concat, upToLast_concat]
      cases blank : Text.isBlank character with
      | true => simpa using ih
      | false =>
          cases region with
          | code => simp
          | comment => simpa using ih
          | literal =>
              obtain ⟨more, split⟩ : upToLast [.code] marks <+: marks :=
                List.rdropWhile_prefix _ _
              right
              refine ⟨character, more, ?_⟩
              rw [if_pos (by simp), if_neg (by simp), ← List.append_assoc,
                split]

theorem eq_behind_of_mem_missing {marks : List (Region × Char)}
    {finding : Finding} (member : finding ∈ missing marks) :
    finding = behind (marks.map Prod.snd) := by
  unfold missing at member
  split at member
  · cases member
  · split at member
    · cases member
    · exact List.mem_singleton.mp member

/-- The place behind a statement that ends with a literal is not the place
behind its code. -/
theorem missing_ne_of_literal (marks more : List (Region × Char))
    (character : Char) :
    missing marks ≠ missing (marks ++ (more ++ [(.literal, character)])) := by
  intro same
  have there : missing (marks ++ (more ++ [(Region.literal, character)])) =
      [behind ((marks ++ (more ++ [(Region.literal, character)])).map
        Prod.snd)] := by
    rw [← List.append_assoc, missing_concat, if_neg (by simp)]
  have here :=
    eq_behind_of_mem_missing (same ▸ there ▸ List.mem_singleton_self _)
  rw [List.map_append] at here
  have longer : (more ++ [(Region.literal, character)]).map Prod.snd ≠ [] := by
    simp
  exact (precedes_behind_append _ longer).ne here.symm

/-- Behind the last line feed there is only white space to trim. -/
theorem trimEnd_ended (lines : List Text) :
    Text.trimEnd (ended lines) = Text.trimEnd (['\n'].intercalate lines) := by
  have feed : Text.allBlank ['\n'] = true := by decide
  have closed : ∀ first later, ended (first :: later) =
      ['\n'].intercalate (first :: later) ++ ['\n'] := by
    intro first later
    induction later generalizing first with
    | nil => simp [ended]
    | cons second later ih =>
        rw [List.intercalate_cons_of_ne_nil (List.cons_ne_nil _ _),
          List.append_assoc, ← ih]
        simp [ended]
  cases lines with
  | nil => rfl
  | cons first later => rw [closed, Text.trimEnd_append_of_allBlank feed]

end SemicolonTermination

namespace Content

open SemicolonTermination

/-- The characters of the lines, with a line feed between one line and the next,
each with what it belongs to. -/
def marks (content : Content) : List (Region × Char) :=
  (Token.ofText (['\n'].intercalate content.lines)).flatMap Token.marks

/-- The rule finds what is missing behind the last character of code.  That is
the end of the last statement, unless the statement ends with a literal: of this
the code shows nothing. -/
theorem semicolon_missing_behind_code (content : Content) :
    check (codeOnly content.lines) = missing (upToLast [.code] content.marks) ∧
    (check (codeOnly content.lines) =
      missing (upToLast [.code, .literal] content.marks) ↔
      ∀ last ∈ (upToLast [.code, .literal] content.marks).getLast?,
      last.1 = .code) := by
  have feedless : ∀ line ∈ content.lines, '\n' ∉ line :=
    fun _ => feedless_of_mem_lines
  have feedlessCode : ∀ line ∈ codeOnly content.lines, '\n' ∉ line := by
    intro code member
    obtain ⟨lexed, inLines, rfl⟩ := List.mem_map.mp member
    exact LexedLine.feedless_of_mem_lexFrom feedless inLines
  have found : check (codeOnly content.lines) =
      missing (upToLast [.code] content.marks) := by
    rw [check_eq_missing feedlessCode, trimEnd_ended,
      intercalate_codeOnly feedless, missing_map_shown]
    rfl
  refine ⟨found, ?_⟩
  rw [found]
  rcases upToLast_cases content.marks with same | longer
  · rw [same]
    apply iff_of_true rfl
    intro last isLast
    exact List.mem_singleton.mp (counts_of_getLast?_upToLast isLast).1
  · obtain ⟨character, more, split⟩ := longer
    rw [split]
    apply iff_of_false (missing_ne_of_literal _ _ _)
    intro code
    have last := code (.literal, character) (by simp)
    cases last

/-- The literal is on the second line, and the semicolon is missed on the first
one. -/
theorem semicolon_misplaced_before_literal :
    let content := ofQuery "SELECT a,\n'b'"
    check (codeOnly content.lines) =
      [⟨1, 10, "Expected semicolon at end of statement"⟩] ∧
    missing (upToLast [.code, .literal] content.marks) =
      [⟨2, 4, "Expected semicolon at end of statement"⟩] := by
  decide +kernel

end Content

end QueryLint
