import QueryLint.Proofs.Rule.Columns
import QueryLint.Proofs.Sql.Lexing
import QueryLint.Proofs.Text.FirstWord

/-!
# Comments that instruct

A comment instructs if its first word begins with a keyword and does not go on
with it: the end of the comment, a hyphen or another sign may follow, but no
letter, digit or underscore.  What follows the keyword belongs to the rule list,
and of two keywords the longer one is taken.  Comments that do not instruct make
no difference to a unit.
-/

namespace QueryLint

namespace Instruction

variable {text rest : Text} {action : Action}

private theorem action?_cons_of_leads (latin : text.IsLatin)
    (leads : Text.Leads action.keyword.toList rest text)
    (others : List Action) :
    action? text (action :: others) = some (some action, rest) := by
  obtain ⟨spelling, rfl, spells, ends⟩ := leads
  have taken :=
    (Text.afterKeyword?_eq_some_iff latin).mpr ⟨spelling, rfl, spells⟩
  have length : action.keyword.toList.length = spelling.length := by
    rw [← spells, Text.lower, List.length_map]
  have same : spelled action.keyword.toList (spelling ++ rest) = true := by
    rw [spelled, length, List.take_left, spells, beq_self_eq_true]
  rw [action?, taken]
  simp only [ends, same, if_true]

private theorem action?_cons_of_not_leads (latin : text.IsLatin)
    (leaves : ∀ rest, ¬ Text.Leads action.keyword.toList rest text)
    (others : List Action) :
    action? text (action :: others) = action? text others := by
  rw [action?]
  split
  · next rest taken =>
      obtain ⟨spelling, split, spells⟩ :=
        (Text.afterKeyword?_eq_some_iff latin).mp taken
      rw [if_neg]
      exact fun ends => leaves rest ⟨spelling, split, spells, ends⟩
  · rfl

/-- Keywords that are tried in the order of their lengths give the longest
one. -/
private theorem action?_eq_some_iff {actions : List Action}
    (sorted : actions.Pairwise fun longer shorter =>
      shorter.keyword.toList.length < longer.keyword.toList.length)
    (latin : text.IsLatin) :
    action? text actions = some (some action, rest) ↔
      action ∈ actions ∧ Text.Leads action.keyword.toList rest text ∧
        ∀ other ∈ actions, ∀ tail, Text.Leads other.keyword.toList tail text →
          rest.length ≤ tail.length := by
  induction actions with
  | nil => simp [action?]
  | cons first others ih =>
      obtain ⟨longest, sorted⟩ := List.pairwise_cons.mp sorted
      by_cases taken : ∃ tail, Text.Leads first.keyword.toList tail text
      · obtain ⟨tail, leads⟩ := taken
        rw [action?_cons_of_leads latin leads]
        constructor
        · rintro ⟨⟩
          refine ⟨List.mem_cons_self, leads, ?_⟩
          intro other member shorterTail leadsOther
          have lengths := leads.length_eq.trans leadsOther.length_eq.symm
          rcases List.mem_cons.mp member with rfl | later
          · omega
          · have shorter := longest other later
            omega
        · rintro ⟨member, leadsAction, least⟩
          rcases List.mem_cons.mp member with rfl | later
          · rw [leads.rest_eq leadsAction]
          · have atMost := least first List.mem_cons_self tail leads
            have lengths := leads.length_eq.trans leadsAction.length_eq.symm
            have shorter := longest action later
            omega
      · rw [action?_cons_of_not_leads latin (not_exists.mp taken), ih sorted]
        constructor
        · rintro ⟨member, leads, least⟩
          refine ⟨List.mem_cons_of_mem _ member, leads, ?_⟩
          intro other inAll tail leadsOther
          rcases List.mem_cons.mp inAll with rfl | later
          · exact absurd ⟨tail, leadsOther⟩ taken
          · exact least other later tail leadsOther
        · rintro ⟨member, leads, least⟩
          refine ⟨?_, leads, fun other later =>
            least other (List.mem_cons_of_mem _ later)⟩
          rcases List.mem_cons.mp member with rfl | later
          · exact absurd ⟨rest, leads⟩ taken
          · exact later

end Instruction

/-- The tool's name with the keyword. -/
def Action.word (action : Action) : Text :=
  Instruction.opening.toList ++ action.keyword.toList

/-- The word is the action's in any case with the ending behind it, and with no
action's word a shorter ending. -/
structure Action.Extends (action : Action) (ending word : Text) : Prop where
  leads : Text.Leads action.word ending word
  shortest : ∀ (other : Action) tail, Text.Leads other.word tail word →
    ending.length ≤ tail.length

namespace Instruction

private theorem action?_all_eq_some_iff {begun between : Text}
    (begins : Text.lower begun = opening.toList) (latin : between.IsLatin)
    {action : Action} :
    action? between Action.all = some (some action, rest) ↔
      action.Extends rest (begun ++ between) := by
  have every : ∀ action : Action, action ∈ Action.all := by
    intro action
    cases action <;> decide
  have begunWith : ∀ (action : Action) rest,
      Text.Leads action.word rest (begun ++ between) ↔
        Text.Leads action.keyword.toList rest between := by
    intro action rest
    rw [Action.word, ← begins, Text.leads_append_iff]
  rw [action?_eq_some_iff (by decide) latin]
  constructor
  · rintro ⟨-, leads, least⟩
    refine ⟨(begunWith action rest).mpr leads, ?_⟩
    intro other tail leadsOther
    exact least other (every other) tail ((begunWith other tail).mp leadsOther)
  · rintro ⟨leads, shortest⟩
    refine ⟨every action, (begunWith action rest).mp leads, ?_⟩
    intro other _ tail leadsOther
    exact shortest other tail ((begunWith other tail).mpr leadsOther)

private theorem ofComment?_eq_some_iff {body : Text} (latin : body.IsLatin)
    {action : Action} {selectors : List Selector} :
    ofComment? body = some ⟨action, selectors⟩ ↔
      ∃ rest, action.Extends rest (Text.trimStart body) ∧ '\n' ∉ rest ∧
        selectors = Selector.ofList rest := by
  have trimmed : (Text.trimStart body).IsLatin :=
    fun character member =>
      latin character ((List.dropWhile_suffix _).subset member)
  rw [ofComment?]
  cases taken : Text.afterKeyword? opening.toList (Text.trimStart body) with
  | none =>
      constructor
      · intro read
        cases read
      · rintro ⟨rest, longest, -⟩
        obtain ⟨begun, between, split, begins⟩ := longest.leads.exists_begun
        rw [(Text.afterKeyword?_eq_some_iff trimmed).mpr ⟨begun, split, begins⟩]
          at taken
        cases taken
  | some between =>
      obtain ⟨begun, split, begins⟩ :=
        (Text.afterKeyword?_eq_some_iff trimmed).mp taken
      have latinRest : between.IsLatin := fun character member =>
        trimmed character (split ▸ List.mem_append_right begun member)
      rw [split]
      simp only [← action?_all_eq_some_iff begins latinRest]
      constructor
      · intro read
        split at read
        · next found tried =>
            split at read
            · cases read
            · next feedless =>
                cases read
                exact ⟨_, tried, by simpa using feedless, rfl⟩
        · cases read
      · rintro ⟨rest, tried, feedless, rfl⟩
        simp [tried, feedless]

/-- The first word tells whether a comment instructs. -/
private theorem extends_trimStart_iff {action : Action} {body rest : Text} :
    action.Extends rest (Text.trimStart body) ↔
      ∃ ending, action.Extends ending (Text.firstWord body) ∧
        rest = ending ++ Text.afterFirstWord body := by
  have inWord : ∀ (action : Action) rest,
      Text.Leads action.word rest (Text.trimStart body) ↔
      ∃ ending, Text.Leads action.word ending (Text.firstWord body) ∧
        rest = ending ++ Text.afterFirstWord body := by
    intro action rest
    exact Text.leads_iff_takeWhile (by cases action <;> decide)
  constructor
  · rintro ⟨leads, shortest⟩
    obtain ⟨ending, leadsWord, rfl⟩ := (inWord action rest).mp leads
    refine ⟨ending, ⟨leadsWord, ?_⟩, rfl⟩
    intro other tail leadsOther
    have lengths :=
      shortest other _ ((inWord other _).mpr ⟨tail, leadsOther, rfl⟩)
    rw [List.length_append, List.length_append] at lengths
    exact Nat.le_of_add_le_add_right lengths
  · rintro ⟨ending, ⟨leadsWord, shortest⟩, rfl⟩
    refine ⟨(inWord action _).mpr ⟨ending, leadsWord, rfl⟩, ?_⟩
    intro other _ leadsOther
    obtain ⟨tail, leadsTail, rfl⟩ := (inWord other _).mp leadsOther
    rw [List.length_append, List.length_append]
    exact Nat.add_le_add_right (shortest other tail leadsTail) _

/-- The first word of the comment begins with no keyword as a word. -/
def IsIdle (body : Text) : Prop :=
  ∀ (action : Action) ending, ¬ action.Extends ending (Text.firstWord body)

/-- An ending is part of the first word, which holds no line feed. -/
private theorem feedless_of_extends {action : Action} {body ending : Text}
    (longest : action.Extends ending (Text.firstWord body)) :
    '\n' ∉ ending := by
  intro feed
  obtain ⟨spelling, split, -⟩ := longest.leads
  have inWord : '\n' ∈ Text.firstWord body :=
    split ▸ List.mem_append_right spelling feed
  have unbroken := List.mem_takeWhile_imp inWord
  exact absurd unbroken (by decide)

/-- The same comments, up to idle ones in either list. -/
inductive SameButIdle : List Text → List Text → Prop where
  | nil : SameButIdle [] []
  | both (body : Text) {left right : List Text} :
      SameButIdle left right → SameButIdle (body :: left) (body :: right)
  | left {body : Text} {left right : List Text} :
      IsIdle body → SameButIdle left right → SameButIdle (body :: left) right
  | right {body : Text} {left right : List Text} :
      IsIdle body → SameButIdle left right → SameButIdle left (body :: right)

theorem ofComment?_eq_none_of_isIdle {body : Text} (latin : body.IsLatin)
    (idle : IsIdle body) : ofComment? body = none := by
  apply Option.eq_none_iff_forall_ne_some.mpr
  rintro ⟨action, selectors⟩ read
  obtain ⟨rest, longest, -⟩ := (ofComment?_eq_some_iff latin).mp read
  obtain ⟨ending, longestWord, -⟩ := extends_trimStart_iff.mp longest
  exact idle action ending longestWord

theorem SameButIdle.filterMap_eq {left right : List Text}
    (same : SameButIdle left right) (latinLeft : ∀ body ∈ left, body.IsLatin)
    (latinRight : ∀ body ∈ right, body.IsLatin) :
    left.filterMap ofComment? = right.filterMap ofComment? := by
  induction same with
  | nil => rfl
  | both body _ ih =>
      rw [List.filterMap_cons, List.filterMap_cons,
        ih (List.forall_mem_cons.mp latinLeft).2
          (List.forall_mem_cons.mp latinRight).2]
  | left idle _ ih =>
      obtain ⟨first, later⟩ := List.forall_mem_cons.mp latinLeft
      rw [List.filterMap_cons, ofComment?_eq_none_of_isIdle first idle,
        ih later latinRight]
  | right idle _ ih =>
      obtain ⟨first, later⟩ := List.forall_mem_cons.mp latinRight
      rw [List.filterMap_cons, ofComment?_eq_none_of_isIdle first idle,
        ih latinLeft later]

theorem ofLines_eq_flatMap (lines : List Text) :
    ofLines lines =
      (((LexedLine.lexAll lines).map fun line =>
        line.comments.filterMap ofComment?).zipIdx
        1).flatMap fun (instructions, number) =>
          instructions.map fun instruction => (number, instruction) := by
  rw [List.zipIdx_map, List.flatMap_map]
  rfl

end Instruction

namespace LexedLine

private theorem subset_of_mem_withBody {lexed : LexedLine} {text : Text}
    (within : ∀ body ∈ lexed.comments, body ⊆ text) (character : Char) :
    ∀ body ∈ (lexed.withBody character).comments, body ⊆ character :: text := by
  obtain ⟨code, comments⟩ := lexed
  cases comments with
  | nil =>
      intro body member
      rw [List.mem_singleton.mp member]
      exact List.cons_subset_cons _ (List.nil_subset _)
  | cons first later =>
      intro body member
      rcases List.mem_cons.mp member with rfl | inLater
      · exact List.cons_subset_cons _ (within first List.mem_cons_self)
      · exact List.subset_cons_of_subset _
          (within body (List.mem_cons_of_mem _ inLater))

/-- Comments have only characters of their line. -/
theorem subset_of_mem_comments (region : Region) (line : Text) :
    ∀ body ∈ (lex region line).1.comments, body ⊆ line := by
  have further : ∀ {lexed : LexedLine} {text : Text},
      (∀ body ∈ lexed.comments, body ⊆ text) →
      ∀ character, ∀ body ∈ lexed.comments, body ⊆ character :: text :=
    fun within character body member =>
      List.subset_cons_of_subset _ (within body member)
  fun_induction lex region line with
  | case1 => exact List.forall_mem_nil _
  | case2 => exact List.forall_mem_nil _
  | case3 => exact List.forall_mem_singleton.mpr (List.nil_subset _)
  | case4 body =>
      exact List.forall_mem_singleton.mpr (List.subset_cons_of_subset _
        (List.subset_cons_of_subset _ (List.Subset.refl body)))
  | case5 rest lexed next read ih =>
      rw [read] at ih
      exact further (further ih _) _
  | case6 rest lexed next read ih =>
      rw [read] at ih
      exact further ih _
  | case7 character rest _ _ _ lexed next read ih =>
      rw [read] at ih
      exact further ih _
  | case8 rest lexed next read ih =>
      rw [read] at ih
      exact further (further ih _) _
  | case9 rest _ lexed next read ih =>
      rw [read] at ih
      exact further ih _
  | case10 character rest _ _ lexed next read ih =>
      rw [read] at ih
      exact further ih _
  | case11 rest lexed next read ih =>
      rw [read] at ih
      exact List.forall_mem_cons.mpr
        ⟨List.nil_subset _, further (further ih _) _⟩
  | case12 character rest _ lexed next read ih =>
      rw [read] at ih
      exact subset_of_mem_withBody ih character

theorem exists_line_of_mem_lexFrom {region : Region} {lines : List Text}
    {lexed : LexedLine} (member : lexed ∈ lexFrom region lines) :
    ∃ line ∈ lines, ∀ body ∈ lexed.comments, body ⊆ line := by
  induction lines generalizing region with
  | nil => cases member
  | cons line rest ih =>
      rcases List.mem_cons.mp member with rfl | later
      · exact ⟨line, List.mem_cons_self, subset_of_mem_comments region line⟩
      · obtain ⟨other, inRest, within⟩ := ih later
        exact ⟨other, List.mem_cons_of_mem _ inRest, within⟩

end LexedLine

namespace Content

theorem isLatin_of_mem_comments {content : Content} {lexed : LexedLine}
    (member : lexed ∈ LexedLine.lexAll content.lines) :
    ∀ body ∈ lexed.comments, body.IsLatin := by
  obtain ⟨line, inLines, within⟩ := LexedLine.exists_line_of_mem_lexFrom member
  exact fun body inLine character inside =>
    lt_of_mem_lines inLines (within body inLine inside)

/-- The lines of the contents have the same comments, up to idle ones. -/
def Agree (one other : Content) : Prop :=
  List.Forall₂ (fun left right : LexedLine =>
    Instruction.SameButIdle left.comments right.comments)
    (LexedLine.lexAll one.lines) (LexedLine.lexAll other.lines)

theorem Agree.suppressions_eq {one other : Content} (agree : one.Agree other) :
    one.suppressions = other.suppressions := by
  have read : ∀ {left right : List LexedLine},
      List.Forall₂ (fun left right : LexedLine =>
        Instruction.SameButIdle left.comments right.comments) left right →
      (∀ lexed ∈ left, ∀ body ∈ lexed.comments, body.IsLatin) →
      (∀ lexed ∈ right, ∀ body ∈ lexed.comments, body.IsLatin) →
      (left.map fun line => line.comments.filterMap Instruction.ofComment?) =
        right.map fun line =>
          line.comments.filterMap Instruction.ofComment? := by
    intro left right agree latinLeft latinRight
    induction agree with
    | nil => rfl
    | cons first _ ih =>
        obtain ⟨headLeft, tailLeft⟩ := List.forall_mem_cons.mp latinLeft
        obtain ⟨headRight, tailRight⟩ := List.forall_mem_cons.mp latinRight
        rw [List.map_cons, List.map_cons, first.filterMap_eq headLeft headRight,
          ih tailLeft tailRight]
  have lengths : one.lines.length = other.lines.length := by
    have lexed := agree.length_eq
    rwa [LexedLine.lexAll, LexedLine.lexAll, LexedLine.length_lexFrom,
      LexedLine.length_lexFrom] at lexed
  have instructions : Instruction.ofLines one.lines =
      Instruction.ofLines other.lines := by
    rw [Instruction.ofLines_eq_flatMap, Instruction.ofLines_eq_flatMap,
      read agree (fun _ => isLatin_of_mem_comments)
        (fun _ => isLatin_of_mem_comments)]
  rw [suppressions, suppressions, Suppressions.ofLines, Suppressions.ofLines,
    Scan.ofLines, Scan.ofLines, instructions, lengths]

end Content

namespace Instruction

/-- The ending and what follows the first word are the rule list.  The first
word alone tells what a comment does exactly if no keyword is followed by an
ending, and idle comments make no difference to the unit. -/
theorem ofComment?_of_firstWord {body : Text} (latin : body.IsLatin)
    (feedless : '\n' ∉ body) :
    (∀ action selectors, ofComment? body = some ⟨action, selectors⟩ ↔
      ∃ ending, action.Extends ending (Text.firstWord body) ∧
        selectors = Selector.ofList (ending ++ Text.afterFirstWord body)) ∧
    ((∀ action selectors, ofComment? body = some ⟨action, selectors⟩ ↔
        Text.lower (Text.firstWord body) = action.word ∧
          selectors = Selector.ofList (Text.afterFirstWord body)) ↔
      ∀ (action : Action) ending, action.Extends ending (Text.firstWord body) →
        ending = []) ∧
    ∀ one other : Content, one.Agree other →
      one.suppressions = other.suppressions := by
  have behind : '\n' ∉ Text.afterFirstWord body := by
    intro feed
    exact feedless
      (((List.dropWhile_suffix _).trans (List.dropWhile_suffix _)).subset feed)
  have instructs : ∀ action selectors,
      ofComment? body = some ⟨action, selectors⟩ ↔
      ∃ ending, action.Extends ending (Text.firstWord body) ∧
        selectors = Selector.ofList (ending ++ Text.afterFirstWord body) := by
    intro action selectors
    rw [ofComment?_eq_some_iff latin]
    constructor
    · rintro ⟨rest, longest, -, rfl⟩
      obtain ⟨ending, longestWord, rfl⟩ := extends_trimStart_iff.mp longest
      exact ⟨ending, longestWord, rfl⟩
    · rintro ⟨ending, longestWord, rfl⟩
      refine ⟨_, extends_trimStart_iff.mpr ⟨ending, longestWord, rfl⟩, ?_, rfl⟩
      rw [List.mem_append, not_or]
      exact ⟨feedless_of_extends longestWord, behind⟩
  refine ⟨instructs, ⟨?_, ?_⟩, fun one other agree => agree.suppressions_eq⟩
  · intro alone action ending extended
    obtain ⟨same, -⟩ :=
      (alone action _).mp ((instructs action _).mpr ⟨ending, extended, rfl⟩)
    have lengths := extended.leads.length_eq
    rw [← same, Text.lower, List.length_map] at lengths
    exact List.eq_nil_of_length_eq_zero (by omega)
  · intro endless action selectors
    rw [instructs]
    constructor
    · rintro ⟨ending, extended, rfl⟩
      obtain rfl := endless action ending extended
      obtain ⟨spelling, split, spells, -⟩ := extended.leads
      rw [split, List.append_nil]
      exact ⟨spells, rfl⟩
    · rintro ⟨same, rfl⟩
      refine ⟨[], ⟨⟨Text.firstWord body, (List.append_nil _).symm, same, rfl⟩,
        ?_⟩, rfl⟩
      exact fun _ _ _ => Nat.zero_le _

/-- A hyphen ends the keyword and belongs to the rule list; a keyword that goes
on in a letter is none. -/
theorem ofComment?_of_firstWord_hyphenated :
    let body := " sqllint-disable-next-line select-star".toList
    let mistyped := Content.ofQuery "SELECT 1; -- sqllint-disabled a"
    (∃ ending, Action.disable.Extends ending (Text.firstWord body) ∧
      [Selector.named "-next-line".toList,
          Selector.named "select-star".toList] =
        Selector.ofList (ending ++ Text.afterFirstWord body)) ∧
    mistyped.suppressions = (Content.ofQuery "SELECT 1; ").suppressions := by
  intro body mistyped
  obtain ⟨instructs, -, unchanged⟩ := ofComment?_of_firstWord
    (show Text.IsLatin body by decide +kernel)
    (show '\n' ∉ body by decide +kernel)
  constructor
  · exact (instructs .disable _).mp (by decide +kernel)
  · apply unchanged
    have idle : IsIdle " sqllint-disabled a".toList := by
      intro action ending extended
      obtain ⟨spells, rfl, ends⟩ := Text.leads_iff.mp extended.leads
      cases action with
      | disable => exact absurd ends (by decide +kernel)
      | enable => exact absurd spells (by decide +kernel)
      | disableLine => exact absurd spells (by decide +kernel)
    have lexed : LexedLine.lexAll mistyped.lines =
        [⟨"SELECT 1; ".toList ++ List.replicate 21 ' ',
          [" sqllint-disabled a".toList]⟩] := by
      decide +kernel
    have bare : LexedLine.lexAll (Content.ofQuery "SELECT 1; ").lines =
        [⟨"SELECT 1; ".toList, []⟩] := by
      decide +kernel
    rw [Content.Agree, lexed, bare]
    exact .cons (.left idle .nil) .nil

/-- A first word that is no keyword opens a range to the end of the unit. -/
theorem hyphenated_word_instructs :
    let body := " sqllint-disable-next-line select-star".toList
    let lines := ["SELECT 1; --".toList ++ body, "SELECT * FROM t;".toList]
    (∀ action : Action, Text.lower (Text.firstWord body) ≠ action.word) ∧
      ofComment? body =
        some ⟨.disable,
          [.named "-next-line".toList, .named "select-star".toList]⟩ ∧
      (Suppressions.ofLines lines).silences "select-star" 2 = true := by
  intro body lines
  refine ⟨?_, by decide +kernel, by decide +kernel⟩
  intro action
  cases action <;> decide +kernel

end Instruction

end QueryLint
