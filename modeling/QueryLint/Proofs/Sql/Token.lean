import Mathlib.Data.List.TakeWhile
import QueryLint.Text.Basic

/-!
# Tokens of a text

A whole text falls into comments, string literals and single characters of code;
comments and literals run on over line ends.  `Tokenizes` says which tokens
these are by what may follow each of them, and `Token.ofText` reads them from
the start of the text.
-/

namespace QueryLint

/-- A comment, a string literal or one character of code.  A literal is given by
what it stands for, with each doubled quote written once.  A block comment or a
literal that is not closed runs to the end of the text. -/
inductive Token where
  | plain (character : Char)
  | lineComment (body : Text)
  | blockComment (body : Text) (closed : Bool)
  | literal (content : Text) (closed : Bool)
  deriving DecidableEq, Repr

namespace Token

/-- The content of a literal as it is written: every quote twice. -/
def quoted (content : Text) : Text :=
  content.flatMap fun character =>
    if character = '\'' then ['\'', '\''] else [character]

def closing (delimiter : Text) (closed : Bool) : Text :=
  if closed then delimiter else []

/-- The characters of the token, its delimiters included. -/
def source : Token → Text
  | plain character => [character]
  | lineComment body => '-' :: '-' :: body
  | blockComment body closed => '/' :: '*' :: body ++ closing ['*', '/'] closed
  | literal content closed => '\'' :: quoted content ++ closing ['\''] closed

/-- The token is the first of a text in which the rest comes after it: a line
comment ends before a line feed, a block comment with the first closing
delimiter, a literal with a quote that is not doubled, and each of the three
ends with the text at the latest. -/
def Leads : Token → Text → Prop
  | plain character, rest =>
      character ≠ '\'' ∧ ¬ ['-', '-'] <+: character :: rest ∧
        ¬ ['/', '*'] <+: character :: rest
  | lineComment body, rest =>
      '\n' ∉ body ∧ ∀ character ∈ rest.head?, character = '\n'
  | blockComment body closed, rest =>
      ¬ ['*', '/'] <:+: body ∧ (closed = false → rest = [])
  | literal _ closed, rest =>
      (closed = true → '\'' ∉ rest.head?) ∧ (closed = false → rest = [])

end Token

/-- The tokens of a text, one after the other. -/
inductive Tokenizes : Text → List Token → Prop where
  | nil : Tokenizes [] []
  | cons {token : Token} {rest : Text} {later : List Token} :
      token.Leads rest → Tokenizes rest later →
      Tokenizes (token.source ++ rest) (token :: later)

namespace Token

/-- The body of a block comment, whether it is closed, and the text after it. -/
def readComment : Text → Text × Bool × Text
  | [] => ([], false, [])
  | '*' :: '/' :: rest => ([], true, rest)
  | character :: rest =>
      let (body, closed, after) := readComment rest
      (character :: body, closed, after)

/-- The content of a literal, whether it is closed, and the text after it. -/
def readLiteral : Text → Text × Bool × Text
  | [] => ([], false, [])
  | '\'' :: '\'' :: rest =>
      let (content, closed, after) := readLiteral rest
      ('\'' :: content, closed, after)
  | '\'' :: rest => ([], true, rest)
  | character :: rest =>
      let (content, closed, after) := readLiteral rest
      (character :: content, closed, after)

/-- The first token of a text, and the text after it. -/
def first? : Text → Option (Token × Text)
  | [] => none
  | '-' :: '-' :: rest =>
      some (lineComment (rest.takeWhile (· != '\n')), rest.dropWhile
        (· != '\n'))
  | '/' :: '*' :: rest =>
      let (body, closed, after) := readComment rest
      some (blockComment body closed, after)
  | '\'' :: rest =>
      let (content, closed, after) := readLiteral rest
      some (literal content closed, after)
  | character :: rest => some (plain character, rest)

private theorem readComment_of_open {character : Char} {rest : Text}
    (stays : ¬ ['*', '/'] <+: character :: rest) :
    readComment (character :: rest) =
      (character :: (readComment rest).1, (readComment rest).2) := by
  rw [readComment]
  rintro next rfl rfl
  exact stays ⟨next, rfl⟩

private theorem readComment_append {body rest : Text} {closed : Bool}
    (unclosed : ¬ ['*', '/'] <:+: body) (ends : closed = false → rest = []) :
    readComment (body ++ closing ['*', '/'] closed ++ rest) =
      (body, closed, rest) := by
  induction body with
  | nil =>
      cases closed with
      | false => rw [ends rfl]; rfl
      | true => rfl
  | cons character body ih =>
      have stays : ¬ ['*', '/'] <+:
          character :: (body ++ closing ['*', '/'] closed ++ rest) := by
        intro starts
        obtain ⟨rfl, next⟩ := List.cons_prefix_cons.mp starts
        cases body with
        | cons second body =>
            obtain ⟨rfl, -⟩ := List.cons_prefix_cons.mp next
            exact unclosed (List.IsPrefix.isInfix ⟨body, rfl⟩)
        | nil =>
            cases closed with
            | false => simp [closing, ends rfl] at next
            | true => simp [closing] at next
      have later := ih fun inside => unclosed (List.infix_cons inside)
      simp only [List.cons_append]
      rw [readComment_of_open stays, later]

private theorem exists_comment (text : Text) :
    ∃ body closed rest, text = body ++ closing ['*', '/'] closed ++ rest ∧
      ¬ ['*', '/'] <:+: body ∧ (closed = false → rest = []) := by
  induction text with
  | nil => exact ⟨[], false, [], rfl, by simp, fun _ => rfl⟩
  | cons character text ih =>
      by_cases ends : ['*', '/'] <+: character :: text
      · obtain ⟨rest, split⟩ := ends
        exact ⟨[], true, rest, split.symm, by simp, nofun⟩
      · obtain ⟨body, closed, rest, rfl, unclosed, atEnd⟩ := ih
        refine ⟨character :: body, closed, rest, by simp, ?_, atEnd⟩
        intro inside
        rcases List.infix_cons_iff.mp inside with starts | later
        · exact ends (starts.trans ⟨closing ['*', '/'] closed ++ rest, by simp⟩)
        · exact unclosed later

private theorem readLiteral_append (content : Text) {rest : Text}
    {closed : Bool} (single : closed = true → '\'' ∉ rest.head?)
    (ends : closed = false → rest = []) :
    readLiteral (quoted content ++ closing ['\''] closed ++ rest) =
      (content, closed, rest) := by
  induction content with
  | nil =>
      cases closed with
      | false => rw [ends rfl]; rfl
      | true =>
          change readLiteral ('\'' :: rest) = _
          rw [readLiteral]
          rintro next rfl
          exact single rfl rfl
  | cons character content ih =>
      by_cases quote : character = '\''
      · subst quote
        change readLiteral ('\'' :: '\'' ::
          (quoted content ++ closing ['\''] closed ++ rest)) = _
        rw [readLiteral, ih]
      · have written : quoted (character :: content) =
            character :: quoted content := by
          simp [quoted, quote]
        rw [written, List.cons_append, List.cons_append, readLiteral, ih]
        · rintro next rfl
          exact absurd rfl quote
        · rintro rfl
          exact absurd rfl quote

private theorem exists_literal (text : Text) :
    ∃ content closed rest,
      text = quoted content ++ closing ['\''] closed ++ rest ∧
      (closed = true → '\'' ∉ rest.head?) ∧ (closed = false → rest = []) := by
  fun_induction readLiteral text with
  | case1 => exact ⟨[], false, [], rfl, nofun, fun _ => rfl⟩
  | case2 text content closed after read ih =>
      obtain ⟨content, closed, rest, rfl, single, ends⟩ := ih
      exact ⟨'\'' :: content, closed, rest, rfl, single, ends⟩
  | case3 text single =>
      refine ⟨[], true, text, rfl, ?_, nofun⟩
      intro _ head
      obtain ⟨rest, rfl⟩ := List.head?_eq_some_iff.mp head
      exact single rest rfl
  | case4 character text doubled quote content closed after read ih =>
      obtain ⟨content, closed, rest, rfl, single, ends⟩ := ih
      refine ⟨character :: content, closed, rest, ?_, single, ends⟩
      have other : character ≠ '\'' := fun same => quote same
      simp [quoted, other]

theorem first?_source_append {token : Token} {rest : Text}
    (leads : token.Leads rest) :
    first? (token.source ++ rest) = some (token, rest) := by
  cases token with
  | plain character =>
      obtain ⟨notQuote, notLine, notBlock⟩ := leads
      rw [source, List.singleton_append, first?]
      · rintro next rfl rfl
        exact notLine ⟨next, rfl⟩
      · rintro next rfl rfl
        exact notBlock ⟨next, rfl⟩
      · exact fun same => notQuote same
  | lineComment body =>
      obtain ⟨feedless, ends⟩ := leads
      have inside : ∀ character ∈ body, (character != '\n') = true := by
        intro character member
        exact bne_iff_ne.mpr fun feed => feedless (feed ▸ member)
      have outside : ∀ character ∈ rest.head?, (character != '\n') = false := by
        intro character member
        simp [ends character member]
      have taken : (body ++ rest).takeWhile (· != '\n') = body := by
        rw [List.takeWhile_append_of_pos inside]
        cases rest with
        | nil => simp
        | cons character rest => simp [outside character rfl]
      have dropped : (body ++ rest).dropWhile (· != '\n') = rest := by
        rw [List.dropWhile_append_of_pos inside]
        cases rest with
        | nil => simp
        | cons character rest => simp [outside character rfl]
      change some (lineComment ((body ++ rest).takeWhile (· != '\n')),
        (body ++ rest).dropWhile (· != '\n')) = _
      rw [taken, dropped]
  | blockComment body closed =>
      obtain ⟨unclosed, ends⟩ := leads
      have read := readComment_append unclosed ends
      simp only [source, List.cons_append, List.append_assoc] at read ⊢
      rw [first?, read]
  | literal content closed =>
      obtain ⟨single, ends⟩ := leads
      have read := readLiteral_append content single ends
      simp only [source, List.cons_append, List.append_assoc] at read ⊢
      rw [first?, read]

/-- Some token leads every text that is not empty. -/
theorem exists_leads {text : Text} (holds : text ≠ []) :
    ∃ token rest, text = token.source ++ rest ∧ Leads token rest := by
  cases text with
  | nil => exact absurd rfl holds
  | cons character rest =>
      by_cases line : ['-', '-'] <+: character :: rest
      · obtain ⟨after, split⟩ := line
        refine ⟨lineComment (after.takeWhile (· != '\n')),
          after.dropWhile (· != '\n'), ?_, ?_, ?_⟩
        · simp [source, ← split]
        · intro feed
          simpa using List.mem_takeWhile_imp feed
        · intro next head
          have stops := List.head?_dropWhile_not (· != '\n') after
          rw [Option.mem_def.mp head] at stops
          simpa using stops
      · by_cases block : ['/', '*'] <+: character :: rest
        · obtain ⟨after, split⟩ := block
          obtain ⟨body, closed, later, rfl, unclosed, ends⟩ :=
            exists_comment after
          exact ⟨blockComment body closed, later, by simp [source, ← split],
            unclosed, ends⟩
        · by_cases quote : character = '\''
          · obtain ⟨content, closed, later, rfl, single, ends⟩ :=
              exists_literal rest
            exact ⟨literal content closed, later, by simp [source, quote],
              single, ends⟩
          · exact ⟨plain character, rest, rfl, quote, line, block⟩

theorem first?_eq_some_iff {text rest : Text} {token : Token} :
    first? text = some (token, rest) ↔
      text = token.source ++ rest ∧ token.Leads rest := by
  constructor
  · intro read
    have holds : text ≠ [] := by
      rintro rfl
      cases read
    obtain ⟨other, later, rfl, leads⟩ := exists_leads holds
    rw [first?_source_append leads] at read
    cases read
    exact ⟨rfl, leads⟩
  · rintro ⟨rfl, leads⟩
    exact first?_source_append leads

theorem source_ne_nil (token : Token) : token.source ≠ [] := by
  cases token <;> simp [source]

private theorem length_lt_of_first? {text rest : Text} {token : Token}
    (read : first? text = some (token, rest)) : rest.length < text.length := by
  obtain ⟨rfl, -⟩ := first?_eq_some_iff.mp read
  have positive := List.length_pos_iff.mpr token.source_ne_nil
  rw [List.length_append]
  omega

/-- The tokens of a text, read from its start. -/
def ofText (text : Text) : List Token :=
  match _read : first? text with
  | none => []
  | some (token, rest) => token :: ofText rest
termination_by text.length
decreasing_by exact length_lt_of_first? ‹_›

theorem ofText_nil : ofText [] = [] := by
  rw [ofText]
  rfl

theorem ofText_source_append {token : Token} {rest : Text}
    (leads : token.Leads rest) :
    ofText (token.source ++ rest) = token :: ofText rest := by
  rw [ofText]
  split
  · next none => simp [first?_source_append leads] at none
  · next other later read =>
      rw [first?_source_append leads] at read
      cases read
      rfl

end Token

/-- Every text has tokens, and they are those read from its start. -/
theorem tokenizes_iff {text : Text} {tokens : List Token} :
    Tokenizes text tokens ↔ tokens = Token.ofText text := by
  constructor
  · intro tokenizes
    induction tokenizes with
    | nil => exact Token.ofText_nil.symm
    | cons leads _ ih => rw [Token.ofText_source_append leads, ← ih]
  · rintro rfl
    fun_induction Token.ofText text with
    | case1 text none =>
        have empty : text = [] := by
          by_contra holds
          obtain ⟨token, rest, rfl, leads⟩ := Token.exists_leads holds
          simp [Token.first?_source_append leads] at none
        rw [empty]
        exact .nil
    | case2 text token rest read ih =>
        obtain ⟨rfl, leads⟩ := Token.first?_eq_some_iff.mp read
        exact .cons leads ih

end QueryLint
