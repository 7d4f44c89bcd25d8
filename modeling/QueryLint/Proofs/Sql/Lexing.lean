import QueryLint.Proofs.Sql.Blanking
import QueryLint.Proofs.Sql.Token

/-!
# Lexing lines and the text they make up

Lines are lexed one after the other, with no more than a region carried from
each to the next.  What comes of it can be read off the tokens of the whole
text: the code is the text with comments and literals blanked out, and the
comments are the parts of comment bodies on each line.  `LexedLine.Steps`
follows the lexer through a piece of a line, and `LexedLine.Reads` through a
text.
-/

namespace QueryLint

/-- The numbers of lines ascend. -/
theorem pairwise_zipIdx {α : Type} (lines : List α) (first : Nat) :
    (lines.zipIdx first).Pairwise fun earlier later => earlier.2 < later.2 := by
  apply List.pairwise_map.mp
  rw [List.zipIdx_map_snd]
  exact List.pairwise_lt_range'

namespace Token

/-- The text with a blank for every character but line feeds. -/
def blanked (text : Text) : Text :=
  text.map fun character => if character = '\n' then '\n' else ' '

theorem count_source_blockComment (body : Text) (closed : Bool) :
    (blockComment body closed).source.count '\n' = body.count '\n' := by
  cases closed <;> simp [source, closing]

theorem count_source_literal (content : Text) (closed : Bool) :
    (literal content closed).source.count '\n' =
      (quoted content).count '\n' := by
  cases closed <;> simp [source, closing]

/-- What the token leaves of a text's code. -/
def shade : Token → Text
  | plain character => [character]
  | token => blanked token.source

theorem blanked_feed (text : Text) :
    blanked ('\n' :: text) = '\n' :: blanked text :=
  rfl

theorem blanked_cons {character : Char} (other : character ≠ '\n')
    (text : Text) :
    blanked (character :: text) = ' ' :: blanked text := by
  rw [blanked, List.map_cons, if_neg other]
  rfl

theorem blanked_append (first second : Text) :
    blanked (first ++ second) = blanked first ++ blanked second :=
  List.map_append

theorem blanked_of_feedless {text : Text} (feedless : '\n' ∉ text) :
    blanked text = List.replicate text.length ' ' := by
  rw [blanked, ← List.map_const']
  apply List.map_congr_left
  intro character member
  rw [if_neg]
  rintro rfl
  exact feedless member

/-- The parts of the token's body, if it is a comment that begins on the line:
one for each line that the comment touches, with its line. -/
def parts (line : Nat) : Token → List (Text × Nat)
  | lineComment body => (List.splitOn '\n' body).zipIdx line
  | blockComment body _ => (List.splitOn '\n' body).zipIdx line
  | _ => []

/-- The parts of all comments among tokens of which the first begins on the
line. -/
def allParts (line : Nat) : List Token → List (Text × Nat)
  | [] => []
  | token :: later =>
      token.parts line ++ allParts (line + token.source.count '\n') later

end Token

namespace LexedLine

/-- Line of a text as its tokens have it: the text's code on the line, and the
parts of comments there.  Lines are counted from zero. -/
def ofTokens (tokens : List Token) (index : Nat) : LexedLine :=
  ⟨(List.splitOn '\n' (tokens.flatMap Token.shade)).getD index [],
    ((Token.allParts 0 tokens).filter (·.2 = index)).map (·.1)⟩

instance : Append LexedLine :=
  ⟨fun first second =>
    ⟨first.code ++ second.code, first.comments ++ second.comments⟩⟩

private theorem append_eq (first second : LexedLine) :
    first ++ second = ⟨first.code ++ second.code,
      first.comments ++ second.comments⟩ :=
  rfl

/-- From one region, the lexer passes a piece of a line to the next region, if
what the line has after it is the start of the rest. -/
def Steps (region : Region) (piece : Text) (lexed : LexedLine) (next : Region)
    (rest : Text) : Prop :=
  ∀ line, '\n' ∉ line → line <+: rest →
    lex region (piece ++ line) = (lexed ++ (lex next line).1, (lex next line).2)

section Steps

variable {character : Char} {rest : Text}

private theorem steps_plain (leads : (Token.plain character).Leads rest) :
    Steps .code [character] ⟨[character], []⟩ .code rest := by
  obtain ⟨notQuote, notLine, notBlock⟩ := leads
  intro line _ starts
  rw [List.singleton_append, lex]
  · rfl
  · rintro next rfl rfl
    exact notLine ((List.prefix_append _ _).trans
      (List.cons_prefix_cons.mpr ⟨rfl, starts⟩))
  · rintro next rfl rfl
    exact notBlock ((List.prefix_append ['/', '*'] _).trans
      (List.cons_prefix_cons.mpr ⟨rfl, starts⟩))
  · exact fun same => notQuote same

private theorem steps_lineComment {body : Text}
    (leads : (Token.lineComment body).Leads rest) :
    Steps .code ('-' :: '-' :: body)
      ⟨List.replicate (body.length + 2) ' ', [body]⟩
      .code rest := by
  obtain ⟨-, ends⟩ := leads
  intro line feedless starts
  -- A line comment takes all of its line, so that nothing comes after it there.
  cases line with
  | nil => simp [lex, append_eq]
  | cons character line =>
      obtain ⟨later, rfl⟩ := starts
      exact absurd (List.mem_cons.mpr (Or.inl (ends character rfl).symm))
        feedless

private theorem steps_comment (rest : Text) :
    Steps .code ['/', '*'] ⟨[' ', ' '], []⟩ .comment rest :=
  fun _ _ _ => rfl

private theorem steps_literal (rest : Text) :
    Steps .code ['\''] ⟨[' '], []⟩ .literal rest :=
  fun _ _ _ => rfl

private theorem steps_literal_quote (rest : Text) :
    Steps .literal ['\'', '\''] ⟨[' ', ' '], []⟩ .literal rest :=
  fun _ _ _ => rfl

private theorem steps_literal_character (other : character ≠ '\'')
    (rest : Text) :
    Steps .literal [character] ⟨[' '], []⟩ .literal rest := by
  intro line _ _
  rw [List.singleton_append, lex]
  · rfl
  · exact fun _ same => absurd same other
  · exact fun same => other same

private theorem steps_literal_end (single : '\'' ∉ rest.head?) :
    Steps .literal ['\''] ⟨[' '], []⟩ .code rest := by
  intro line _ starts
  rw [List.singleton_append, lex]
  · rfl
  · rintro next rfl
    obtain ⟨later, rfl⟩ := starts
    exact single rfl

private theorem lex_comment_cons (stays : ¬ ['*', '/'] <+: character :: rest) :
    lex .comment (character :: rest) =
      ((lex .comment rest).1.withBody character, (lex .comment rest).2) := by
  rw [lex]
  rintro next rfl rfl
  exact stays ⟨next, rfl⟩

/-- A line inside a block comment is all body. -/
private theorem lex_comment_of_unclosed {part : Text}
    (unclosed : ¬ ['*', '/'] <:+: part) :
    lex .comment part =
      (⟨List.replicate part.length ' ', [part]⟩, .comment) := by
  induction part with
  | nil => rfl
  | cons character part ih =>
      have stays : ¬ ['*', '/'] <+: character :: part :=
        fun starts => unclosed starts.isInfix
      rw [lex_comment_cons stays,
        ih fun inside => unclosed (List.infix_cons inside)]
      rfl

private theorem steps_comment_end {part : Text}
    (unclosed : ¬ ['*', '/'] <:+: part) (rest : Text) :
    Steps .comment (part ++ ['*', '/'])
      ⟨List.replicate (part.length + 2) ' ', [part]⟩ .code rest := by
  intro line _ _
  induction part with
  | nil => rfl
  | cons character part ih =>
      have stays : ¬ ['*', '/'] <+:
          character :: (part ++ ['*', '/'] ++ line) := by
        intro ends
        obtain ⟨rfl, next⟩ := List.cons_prefix_cons.mp ends
        cases part with
        | nil => simp at next
        | cons second part =>
            obtain ⟨rfl, -⟩ := List.cons_prefix_cons.mp next
            exact unclosed (List.IsPrefix.isInfix ⟨part, rfl⟩)
      simp only [List.cons_append]
      rw [lex_comment_cons stays,
        ih fun inside => unclosed (List.infix_cons inside)]
      rfl

end Steps

def lexText (region : Region) (text : Text) : List LexedLine :=
  lexFrom region (List.splitOn '\n' text)

def codeText (lines : List LexedLine) : Text :=
  ['\n'].intercalate (lines.map code)

/-- The comments of lexed lines, each with its line. -/
def numbered (first : Nat) (lines : List LexedLine) : List (Text × Nat) :=
  (lines.zipIdx first).flatMap fun (line, number) =>
    line.comments.map fun comment => (comment, number)

theorem lexFrom_ne_nil (region : Region) {lines : List Text}
    (holds : lines ≠ []) :
    lexFrom region lines ≠ [] := by
  cases lines with
  | nil => exact absurd rfl holds
  | cons line rest => simp [lexFrom]

theorem lexText_of_feedless (region : Region) {line : Text}
    (feedless : '\n' ∉ line) :
    lexText region line = [(lex region line).1] := by
  rw [lexText, List.splitOn_eq_singleton feedless]
  rfl

theorem lexText_append_feed (region : Region) {line : Text}
    (feedless : '\n' ∉ line) (rest : Text) :
    lexText region (line ++ '\n' :: rest) =
      (lex region line).1 :: lexText (lex region line).2 rest := by
  rw [lexText, List.splitOn_append_cons_self_of_not_mem feedless]
  rfl

theorem lexText_append_of_steps {region next : Region} {piece rest : Text}
    {lexed : LexedLine} (feedless : '\n' ∉ piece)
    (steps : Steps region piece lexed next rest) :
    lexText region (piece ++ rest) =
      (lexText next rest).modifyHead (lexed ++ ·) := by
  by_cases feed : '\n' ∈ rest
  · obtain ⟨line, later, rfl, lineFeedless⟩ := List.eq_append_cons_of_mem feed
    have stepped := steps line lineFeedless ⟨_, rfl⟩
    rw [← List.append_assoc,
      lexText_append_feed region (by simp [feedless, lineFeedless]),
      lexText_append_feed next lineFeedless, stepped]
    rfl
  · have stepped := steps rest feed (List.prefix_refl rest)
    rw [lexText_of_feedless region (by simp [feedless, feed]),
      lexText_of_feedless next feed, stepped]
    rfl

theorem lexText_ne_nil (region : Region) (text : Text) :
    lexText region text ≠ [] :=
  lexFrom_ne_nil region (List.splitOn_ne_nil _ _)

/-- The text's code comes to the given one, and its comments to the given
parts. -/
structure Reads (region : Region) (text code : Text)
    (parts : Nat → List (Text × Nat)) : Prop where
  code : codeText (lexText region text) = code
  comments : ∀ first, numbered first (lexText region text) = parts first

private theorem codeText_singleton (line : LexedLine) :
    codeText [line] = line.code :=
  List.intercalate_singleton

private theorem codeText_cons {line : LexedLine} {others : List LexedLine}
    (holds : others ≠ []) :
    codeText (line :: others) = line.code ++ '\n' :: codeText others := by
  have mapped : others.map code ≠ [] := by simpa using holds
  rw [codeText, List.map_cons, List.intercalate_cons_of_ne_nil mapped,
    List.append_assoc]
  rfl

private theorem numbered_cons (first : Nat) (line : LexedLine)
    (others : List LexedLine) :
    numbered first (line :: others) =
      (line.comments.map fun comment => (comment, first)) ++
        numbered (first + 1) others := by
  rw [numbered, List.zipIdx_cons, List.flatMap_cons]
  rfl

namespace Reads

variable {region next : Region} {rest code : Text}
  {parts : Nat → List (Text × Nat)}

private theorem of_eq {text sameText sameCode : Text}
    {sameParts : Nat → List (Text × Nat)} (read : Reads region text code parts)
    (texts : text = sameText) (codes : code = sameCode)
    (allParts : ∀ first, parts first = sameParts first) :
    Reads region sameText sameCode sameParts :=
  texts ▸ codes ▸ ⟨read.code,
    fun first => (read.comments first).trans (allParts first)⟩

theorem last {line : Text} (feedless : '\n' ∉ line) {lexed : LexedLine}
    (lexes : (lex region line).1 = lexed) :
    Reads region line lexed.code fun first =>
      lexed.comments.map fun comment => (comment, first) := by
  subst lexes
  constructor
  · rw [lexText_of_feedless region feedless, codeText_singleton]
  · intro first
    rw [lexText_of_feedless region feedless, numbered_cons]
    exact List.append_nil _

theorem line {line : Text} (feedless : '\n' ∉ line) {lexed : LexedLine}
    (lexes : lex region line = (lexed, next))
    (later : Reads next rest code parts) :
    Reads region (line ++ '\n' :: rest) (lexed.code ++ '\n' :: code)
      fun first =>
        (lexed.comments.map fun comment => (comment, first)) ++
          parts (first + 1) := by
  constructor
  · rw [lexText_append_feed region feedless, lexes,
      codeText_cons (lexText_ne_nil next rest), later.code]
  · intro first
    rw [lexText_append_feed region feedless, lexes, numbered_cons,
      later.comments]

theorem piece {piece : Text} (feedless : '\n' ∉ piece) {lexed : LexedLine}
    (steps : Steps region piece lexed next rest)
    (later : Reads next rest code parts) :
    Reads region (piece ++ rest) (lexed.code ++ code) fun first =>
      (lexed.comments.map fun comment => (comment, first)) ++ parts first := by
  obtain ⟨laterCode, laterComments⟩ := later
  have stepped := lexText_append_of_steps feedless steps
  cases lines : lexText next rest with
  | nil => exact absurd lines (lexText_ne_nil next rest)
  | cons head others =>
      rw [lines] at laterCode laterComments stepped
      constructor
      · rw [stepped, ← laterCode]
        cases others with
        | nil =>
            rw [List.modifyHead_cons, codeText_singleton,
              codeText_singleton]; rfl
        | cons second others =>
            rw [List.modifyHead_cons, codeText_cons (List.cons_ne_nil _ _),
              codeText_cons (List.cons_ne_nil _ _), ← List.append_assoc]
            rfl
      · intro first
        rw [stepped, ← laterComments, List.modifyHead_cons, numbered_cons,
          numbered_cons, ← List.append_assoc, ← List.map_append]
        rfl

/-- A line feed in a literal or in code is a line end and no more. -/
private theorem feed (outside : lex region [] = (⟨[], []⟩, region))
    (later : Reads region rest code parts) :
    Reads region ('\n' :: rest) ('\n' :: code) fun first => parts (first + 1) :=
  Reads.line List.not_mem_nil outside later

/-- Inside a block comment every line is part of the body, up to its end. -/
private theorem comment {body : Text} {closed : Bool}
    (unclosed : ¬ ['*', '/'] <:+: body) (ends : closed = false → rest = [])
    (later : Reads .code rest code parts) :
    Reads .comment (body ++ Token.closing ['*', '/'] closed ++ rest)
      (Token.blanked (body ++ Token.closing ['*', '/'] closed) ++ code)
      fun first =>
        (List.splitOn '\n' body).zipIdx first ++
          parts (first + body.count '\n') := by
  -- The body is taken line by line; what follows it concerns its last line
  -- alone.
  by_cases feed : '\n' ∈ body
  · obtain ⟨part, after, rfl, feedless⟩ := List.eq_append_cons_of_mem feed
    have partUnclosed : ¬ ['*', '/'] <:+: part :=
      fun inside => unclosed (inside.trans (List.prefix_append _ _).isInfix)
    have afterUnclosed : ¬ ['*', '/'] <:+: after :=
      fun inside => unclosed (inside.trans ⟨part ++ ['\n'], [], by simp⟩)
    have read := Reads.line feedless (lex_comment_of_unclosed partUnclosed)
      (comment afterUnclosed ends later)
    refine read.of_eq (by simp) ?_ fun first => ?_
    · rw [← Token.blanked_of_feedless feedless, List.append_assoc part,
        List.cons_append, Token.blanked_append part, Token.blanked_feed,
        List.append_assoc]
      rfl
    · rw [List.splitOn_append_cons_self_of_not_mem feedless, List.zipIdx_cons,
        List.count_append, List.count_eq_zero_of_not_mem feedless,
        List.count_cons_self, ← List.append_assoc, Nat.zero_add,
        Nat.add_right_comm first 1]
      rfl
  · have whole : List.splitOn '\n' body = [body] :=
      List.splitOn_eq_singleton feed
    have unbroken : body.count '\n' = 0 := List.count_eq_zero_of_not_mem feed
    cases closed with
    | true =>
        have feedless : '\n' ∉ body ++ ['*', '/'] := by simp [feed]
        refine (later.piece feedless (steps_comment_end unclosed rest)).of_eq
          rfl ?_ fun first => ?_
        · rw [Token.closing, if_pos rfl, Token.blanked_of_feedless feedless,
            List.length_append]
          rfl
        · rw [whole, unbroken]
          rfl
    | false =>
        obtain rfl := ends rfl
        obtain ⟨rfl, nothing⟩ := later
        have read :=
          Reads.last feed (congrArg Prod.fst (lex_comment_of_unclosed unclosed))
        refine read.of_eq (by simp [Token.closing]) ?_ fun first => ?_
        · simp only [Token.closing, Bool.false_eq_true, if_false,
            List.append_nil, Token.blanked_of_feedless feed]
          exact (List.append_nil _).symm
        · rw [whole, ← nothing]
          rfl
termination_by body.length

/-- Inside a literal every character is blanked out, up to its end. -/
private theorem literal (content : Text) {closed : Bool}
    (single : closed = true → '\'' ∉ rest.head?)
    (ends : closed = false → rest = []) (later : Reads .code rest code parts) :
    Reads .literal (Token.quoted content ++ Token.closing ['\''] closed ++ rest)
      (Token.blanked (Token.quoted content ++ Token.closing ['\''] closed) ++
        code)
      fun first => parts (first + (Token.quoted content).count '\n') := by
  induction content with
  | nil =>
      cases closed with
      | true => exact later.piece (by simp) (steps_literal_end (single rfl))
      | false =>
          obtain rfl := ends rfl
          exact ⟨later.code, later.comments⟩
  | cons character content ih =>
      by_cases quote : character = '\''
      · subst quote
        exact ih.piece (by simp) (steps_literal_quote _)
      · have written : Token.quoted (character :: content) =
            character :: Token.quoted content := by
          simp [Token.quoted, quote]
        rw [written]
        by_cases feed : character = '\n'
        · subst feed
          refine (Reads.feed rfl ih).of_eq rfl rfl fun first => ?_
          rw [List.count_cons_self, Nat.add_right_comm first 1]
          rfl
        · have feedless : '\n' ∉ [character] := by simpa using Ne.symm feed
          have shaded := Token.blanked_cons feed
            (Token.quoted content ++ Token.closing ['\''] closed)
          refine (ih.piece feedless (steps_literal_character quote _)).of_eq rfl
            (congrArg (· ++ code) shaded.symm) fun first => ?_
          rw [List.count_cons_of_ne feed]
          rfl

theorem token {token : Token} (leads : token.Leads rest)
    (later : Reads .code rest code parts) :
    Reads .code (token.source ++ rest) (token.shade ++ code) fun first =>
      token.parts first ++ parts (first + token.source.count '\n') := by
  cases token with
  | plain character =>
      by_cases feed : character = '\n'
      · subst feed
        exact Reads.feed rfl later
      · refine (later.piece (by simpa using Ne.symm feed)
          (steps_plain leads)).of_eq rfl rfl fun first => ?_
        rw [Token.source, List.count_singleton, if_neg (by simpa using feed)]
        rfl
  | lineComment body =>
      have feedless : '\n' ∉ '-' :: '-' :: body := by simp [leads.1]
      refine (later.piece feedless (steps_lineComment leads)).of_eq rfl ?_
        fun first => ?_
      · rw [Token.shade, Token.source, Token.blanked_of_feedless feedless]
        · rfl
        · intro _ same
          cases same
      · rw [Token.source, List.count_eq_zero_of_not_mem feedless, Token.parts,
          List.splitOn_eq_singleton leads.1]
        rfl
  | blockComment body closed =>
      have inside := Reads.comment leads.1 leads.2 later
      refine (inside.piece (by simp) (steps_comment _)).of_eq
        rfl rfl fun first => ?_
      rw [Token.count_source_blockComment]
      rfl
  | literal content closed =>
      have inside := Reads.literal content leads.1 leads.2 later
      refine (inside.piece (by simp) (steps_literal _)).of_eq
        rfl rfl fun first => ?_
      rw [Token.count_source_literal]
      rfl

theorem tokens {text : Text} {tokens : List Token}
    (tokenizes : Tokenizes text tokens) :
    Reads .code text (tokens.flatMap Token.shade) fun first =>
      Token.allParts first tokens := by
  induction tokenizes with
  | nil => exact ⟨rfl, fun _ => rfl⟩
  | cons leads _ ih => exact ih.token leads

end Reads

theorem feedless_of_mem_lexFrom {region : Region} {lines : List Text}
    (feedless : ∀ line ∈ lines, '\n' ∉ line) {lexed : LexedLine}
    (member : lexed ∈ lexFrom region lines) : '\n' ∉ lexed.code := by
  obtain ⟨start, line, inLines, rfl⟩ := exists_lex_of_mem_lexFrom member
  intro feed
  rcases mem_or_blank_of_forall₂_shows (forall₂_code start line) feed with
    inLine | blank
  · exact feedless line inLines inLine
  · exact absurd blank (by decide)

theorem length_lexFrom (region : Region) (lines : List Text) :
    (lexFrom region lines).length = lines.length := by
  induction lines generalizing region with
  | nil => rfl
  | cons line rest ih => simp [lexFrom, ih]

private theorem le_of_mem_numbered {first : Nat} {lines : List LexedLine}
    {comment : Text × Nat} (member : comment ∈ numbered first lines) :
    first ≤ comment.2 := by
  obtain ⟨⟨line, number⟩, inLines, inLine⟩ := List.mem_flatMap.mp member
  obtain ⟨body, -, rfl⟩ := List.mem_map.mp inLine
  have bound := List.le_snd_of_mem_zipIdx inLines
  exact bound

/-- The comments on one line are those that are numbered with it. -/
private theorem filter_numbered (lines : List LexedLine) (first index : Nat) :
    ((numbered first lines).filter (·.2 = first + index)).map (·.1) =
      (lines[index]?.map comments).getD [] := by
  induction lines generalizing first index with
  | nil => rfl
  | cons line others ih =>
      rw [numbered_cons, List.filter_append, List.map_append]
      cases index with
      | zero =>
          have here : (line.comments.map fun comment => (comment, first)).filter
              (·.2 = first + 0) = line.comments.map fun comment =>
                (comment, first) := by
            simp
          have later : (numbered (first + 1) others).filter (·.2 = first + 0) =
              [] := by
            apply List.filter_eq_nil_iff.mpr
            intro comment member
            have bound := le_of_mem_numbered member
            simp only [decide_eq_true_eq]
            omega
          rw [here, later]
          simp [Function.comp_def]
      | succ index =>
          have here : (line.comments.map fun comment => (comment, first)).filter
              (·.2 = first + (index + 1)) = [] := by
            simp
          have shifted : first + (index + 1) = first + 1 + index := by omega
          rw [here, shifted, ih]
          rfl

/-- Lexing lines agrees with reading the tokens of the text that they make up:
the text has one list of tokens, and the code and the comments of every line are
those of the tokens. -/
theorem lexAll_eq_map_ofTokens {lines : List Text}
    (feedless : ∀ line ∈ lines, '\n' ∉ line) :
    (∀ tokens, Tokenizes (['\n'].intercalate lines) tokens ↔
      tokens = Token.ofText (['\n'].intercalate lines)) ∧
    lexAll lines = (List.range lines.length).map
      (ofTokens (Token.ofText (['\n'].intercalate lines))) := by
  refine ⟨fun tokens => tokenizes_iff, ?_⟩
  -- No lines at all make up the same text as one empty line.
  by_cases empty : lines = []
  · subst empty
    rfl
  have same : lexText .code (['\n'].intercalate lines) = lexAll lines := by
    rw [lexText, List.splitOn_intercalate '\n' feedless empty, lexAll]
  obtain ⟨readCode, readComments⟩ := Reads.tokens
    (tokenizes_iff.mpr (Eq.refl (Token.ofText (['\n'].intercalate lines))))
  rw [same] at readCode readComments
  have codes : List.splitOn '\n' (codeText (lexAll lines)) =
      (lexAll lines).map code := by
    apply List.splitOn_intercalate '\n'
    · intro text member
      obtain ⟨lexed, lexedMember, rfl⟩ := List.mem_map.mp member
      exact feedless_of_mem_lexFrom feedless lexedMember
    · exact List.map_eq_nil_iff.not.mpr (lexFrom_ne_nil .code empty)
  apply List.ext_getElem
  · rw [lexAll, length_lexFrom, List.length_map, List.length_range]
  · intro index bound _
    have comments := filter_numbered (lexAll lines) 0 index
    rw [readComments, List.getElem?_eq_getElem bound, Nat.zero_add] at comments
    rw [List.getElem_map, List.getElem_range, ofTokens, ← readCode, codes,
      comments]
    simp [bound]

theorem lexAll_eq_map_ofTokens_three_lines :
    let lines := ["/*/ a".toList, [], "*/ 'it''s' -- b".toList]
    let tokens : List Token := [.blockComment "/ a\n\n".toList true, .plain ' ',
      .literal "it's".toList true, .plain ' ', .lineComment " b".toList]
    (∀ line ∈ lines, '\n' ∉ line) ∧
      Tokenizes (['\n'].intercalate lines) tokens ∧
    lexAll lines = (List.range 3).map (ofTokens tokens) := by
  intro lines tokens
  have feedless : ∀ line ∈ lines, '\n' ∉ line := by decide
  obtain ⟨read, lexed⟩ := lexAll_eq_map_ofTokens feedless
  have tokenizes : Tokenizes (['\n'].intercalate lines) tokens :=
    (read tokens).mpr (by decide +kernel)
  rw [← (read tokens).mp tokenizes] at lexed
  exact ⟨feedless, tokenizes, lexed⟩

end LexedLine

end QueryLint
