import Mathlib.Data.Set.List
import QueryLint.Proofs.Rule.Findings
import QueryLint.Proofs.Rule.Openings

/-!
# Searching a line for stars

The rule looks for a star from every character of a line.  A search from left to
right that goes on behind each match comes to the same, since no opening begins
before the star of another one and ends behind it.  So every star that an
opening introduces is found, and it is found once.
-/

namespace QueryLint

/-- Of the characters on either side of the place, one is a word character and
one is not.  What lies beyond the line is not one. -/
def Text.boundary (before after : Text) : Bool :=
  before.getLast?.any isWordChar != after.head?.any isWordChar

namespace SelectStar

open Pattern (Begins begins_word)

/-- The text ends with an opening that begins at a word boundary. -/
def Introduced (before : Text) : Prop :=
  ∃ earlier, ∃ part ∈ opening.language,
    before = earlier ++ part ∧ Text.boundary earlier part = true

/-- What the pattern leaves of a text that begins behind another one. -/
def matchAt (before text : Text) : Option Text :=
  if Text.boundary before text then
    ((Pattern.seq opening star).choices text).head? else none

/-- Byte offsets of the stars of the matches from left to right.  After a match
the search goes on behind it, so that the given number of characters is
skipped. -/
def search : (skipped : Nat) → (before text : Text) → List Nat
  | _, _, [] => []
  | skipped + 1, before, character :: rest =>
      search skipped (before ++ [character]) rest
  | 0, before, character :: rest =>
      match matchAt before (character :: rest) with
      | none => search 0 (before ++ [character]) rest
      | some after =>
          (Text.byteLength (before ++ character :: rest) -
            Text.byteLength after - 1) ::
            search (rest.length - after.length) (before ++ [character]) rest

/-- An opening begins with the letter of `SELECT`, or with the long one that
folds to it. -/
theorem begins_opening :
    Begins opening fun character => Text.isWordChar character = true := by
  have letters : ∀ character, Text.foldsTo 's' character = true →
      Text.isWordChar character = true := by
    intro character folds
    rcases (Text.foldsTo_iff (by decide)).mp folds with
      rfl | rfl | ⟨-, rfl⟩ | ⟨isK, -⟩
    · decide
    · decide
    · decide +kernel
    · cases isK
  exact ((begins_word 's' "elect".toList).imp letters).seq _

theorem matchAt_eq_some_iff {before text after : Text} :
    matchAt before text = some after ↔
      ∃ part ∈ opening.language, Text.boundary before part = true ∧
        part ++ '*' :: after = text := by
  rw [matchAt, head?_choices]
  have sameBoundary {part : Text} (inOpening : part ∈ opening.language) :
      Text.boundary before (part ++ '*' :: after) =
        Text.boundary before part := by
    obtain ⟨character, head, -⟩ := begins_opening part inOpening
    rw [Text.boundary, Text.boundary, List.head?_append, Option.mem_def.mp head]
    rfl
  constructor
  · intro matched
    split at matched
    · next atBoundary =>
        obtain ⟨part, inOpening, rfl⟩ := afterStar?_eq_some_iff.mp matched
        exact ⟨part, inOpening, sameBoundary inOpening ▸ atBoundary, rfl⟩
    · cases matched
  · intro split
    obtain ⟨part, inOpening, atBoundary, rfl⟩ := split
    rw [if_pos (sameBoundary inOpening ▸ atBoundary)]
    exact afterStar?_eq_some_iff.mpr ⟨part, inOpening, rfl⟩

private theorem byteLength_star (after : Text) :
    Text.byteLength ('*' :: after) = 1 + Text.byteLength after :=
  Text.byteLength_append ['*'] after

/-- The place of the star that a match ends with. -/
theorem byteLength_before_star (before part after : Text) :
    Text.byteLength (before ++ (part ++ '*' :: after)) -
      Text.byteLength after - 1 =
      Text.byteLength (before ++ part) := by
  simp only [Text.byteLength_append, byteLength_star]
  omega

/-- The offsets of the stars in a text that begins behind another one. -/
def offsetsBehind (before text : Text) : List Nat :=
  starOffsets (Text.byteLength before)
    (before.getLast?.any Text.isWordChar) text

theorem offsetsBehind_cons (before : Text) (character : Char) (rest : Text) :
    offsetsBehind before (character :: rest) =
      ((matchAt before (character :: rest)).map fun after =>
        Text.byteLength (before ++ character :: rest) - Text.byteLength after -
          1).toList ++
        offsetsBehind (before ++ [character]) rest := by
  have size : Text.byteLength before + character.utf8Size =
      Text.byteLength (before ++ [character]) := by
    rw [Text.byteLength_append]
    simp [Text.byteLength]
  have last : Text.isWordChar character =
      (before ++ [character]).getLast?.any Text.isWordChar := by simp
  rw [offsetsBehind, starOffsets_cons, matchAt, head?_choices,
    Text.byteLength_append, size, last]
  congr 1
  cases taken : afterStar? (character :: rest) with
  | none => cases before.getLast?.any Text.isWordChar <;> simp
  | some after =>
      -- A match begins with a word character, so that only the one before it
      -- matters.
      obtain ⟨part, inOpening, whole⟩ := afterStar?_eq_some_iff.mp taken
      obtain ⟨first, head, letter⟩ := begins_opening part inOpening
      have begun : (character :: rest).head?.any Text.isWordChar = true := by
        rw [← whole, List.head?_append, Option.mem_def.mp head]
        exact letter
      rw [Text.boundary, begun]
      cases before.getLast?.any Text.isWordChar <;> simp

theorem mem_offsetsBehind_iff {before text : Text} {place : Nat} :
    place ∈ offsetsBehind before text ↔
      ∃ earlier, ∃ part ∈ opening.language, ∃ after,
        text = earlier ++ (part ++ '*' :: after) ∧
        Text.boundary (before ++ earlier) part = true ∧
        place = Text.byteLength (before ++ earlier ++ part) := by
  induction text generalizing before with
  | nil =>
      constructor
      · intro member
        cases member
      · intro split
        obtain ⟨earlier, part, -, after, whole, -⟩ := split
        simp at whole
  | cons character rest ih =>
      rw [offsetsBehind_cons, List.mem_append, Option.mem_toList,
        Option.map_eq_some_iff, ih]
      constructor
      · intro found
        rcases found with
          ⟨after, matched, rfl⟩ | ⟨earlier, part, inOpening, after, rfl, found⟩
        · obtain ⟨part, inOpening, atBoundary, whole⟩ :=
            matchAt_eq_some_iff.mp matched
          refine ⟨[], part, inOpening, after, whole.symm, ?_, ?_⟩
          · simpa using atBoundary
          · rw [← whole, byteLength_before_star, List.append_nil]
        · refine ⟨character :: earlier, part, inOpening, after, rfl, ?_⟩
          simpa using found
      · intro split
        obtain ⟨earlier, part, inOpening, after, whole, atBoundary, rfl⟩ :=
          split
        cases earlier with
        | nil =>
            rw [List.append_nil] at atBoundary ⊢
            rw [List.nil_append] at whole
            left
            refine ⟨after, ?_, ?_⟩
            · exact matchAt_eq_some_iff.mpr
                ⟨part, inOpening, atBoundary, whole.symm⟩
            · rw [whole, byteLength_before_star]
        | cons first earlier =>
            obtain ⟨rfl, rfl⟩ := List.cons.inj whole
            right
            refine ⟨earlier, part, inOpening, after, rfl, ?_⟩
            simpa using atBoundary

theorem pairwise_offsetsBehind (before text : Text) :
    (offsetsBehind before text).Pairwise (· < ·) := by
  induction text generalizing before with
  | nil => exact .nil
  | cons character rest ih =>
      rw [offsetsBehind_cons]
      cases matched : matchAt before (character :: rest) with
      | none => exact ih _
      | some after =>
          simp only [Option.map_some, Option.toList_some, List.singleton_append]
          refine List.pairwise_cons.mpr ⟨?_, ih _⟩
          intro later member
          obtain ⟨part, inOpening, -, whole⟩ := matchAt_eq_some_iff.mp matched
          obtain ⟨earlier, other, otherInOpening, left, rfl, -, rfl⟩ :=
            mem_offsetsBehind_iff.mp member
          -- The later opening begins behind the star, and so does its own star.
          obtain ⟨between, skipped, -⟩ :=
            star_before_of_openings inOpening otherInOpening
              (List.cons_ne_nil character earlier) whole
          have placed : before ++ [character] ++ earlier =
              before ++ part ++ ('*' :: between) := by
            rw [List.append_assoc, List.singleton_append, skipped,
              List.append_assoc]
          rw [← whole, byteLength_before_star, placed,
            Text.byteLength_append _ other,
            Text.byteLength_append _ ('*' :: between), byteLength_star]
          omega

/-- A search finds what the rule finds, as long as no match begins with a
character that it skips. -/
theorem search_eq_offsetsBehind {skipped : Nat} {before text : Text}
    (idle : ∀ passed left, passed.length < skipped → text = passed ++ left →
      matchAt (before ++ passed) left = none) :
    search skipped before text = offsetsBehind before text := by
  induction text generalizing skipped before with
  | nil => cases skipped <;> rfl
  | cons character rest ih =>
      rw [offsetsBehind_cons]
      cases skipped with
      | succ skipped =>
          have none := idle [] (character :: rest) (Nat.succ_pos skipped) rfl
          rw [List.append_nil] at none
          rw [search, none]
          apply ih
          intro passed left shorter split
          have later :=
            idle (character :: passed) left (Nat.succ_lt_succ shorter)
              (congrArg (character :: ·) split)
          rw [List.append_assoc]
          exact later
      | zero =>
          rw [search]
          cases matched : matchAt before (character :: rest) with
          | none =>
              apply ih
              intro passed left shorter _
              exact absurd shorter (Nat.not_lt_zero _)
          | some after =>
              simp only [Option.map_some, Option.toList_some,
                List.singleton_append]
              congr 1
              apply ih
              obtain ⟨part, inOpening, -, whole⟩ :=
                matchAt_eq_some_iff.mp matched
              intro passed left shorter split
              apply Option.eq_none_iff_forall_ne_some.mpr
              intro later taken
              obtain ⟨other, otherInOpening, -, rfl⟩ :=
                matchAt_eq_some_iff.mp taken
              rw [split] at whole
              -- A match inside of this one would begin behind the end of this
              -- one.
              obtain ⟨between, inside, behind⟩ :=
                star_before_of_openings inOpening otherInOpening
                  (List.cons_ne_nil character passed) whole
              have lengths := congrArg List.length inside
              rw [split, behind] at shorter
              simp only [List.length_append,
                List.length_cons] at lengths shorter
              omega

/-- A search from the left of the line finds what the rule finds. -/
theorem columns_eq_search (line : Text) :
    columns line = (search 0 [] line).map (· + 1) := by
  have idle : ∀ passed left : Text, passed.length < 0 → line = passed ++ left →
      matchAt ([] ++ passed) left = none :=
    fun _ _ shorter _ => absurd shorter (Nat.not_lt_zero _)
  rw [search_eq_offsetsBehind idle]
  rfl

theorem mem_columns_iff {line : Text} {column : Nat} :
    column ∈ columns line ↔ ∃ before after, line = before ++ '*' :: after ∧
      Introduced before ∧ column = Text.byteLength before + 1 := by
  constructor
  · intro member
    obtain ⟨place, found, rfl⟩ := List.mem_map.mp member
    have listed : place ∈ offsetsBehind [] line := found
    obtain ⟨earlier, part, inOpening, after, rfl, atBoundary, rfl⟩ :=
      mem_offsetsBehind_iff.mp listed
    refine ⟨earlier ++ part, after, ?_,
      ⟨earlier, part, inOpening, rfl, atBoundary⟩, rfl⟩
    rw [List.append_assoc]
  · intro split
    obtain ⟨_, after, rfl, ⟨earlier, part, inOpening, rfl, atBoundary⟩, rfl⟩ :=
      split
    have found : Text.byteLength (earlier ++ part) ∈
        offsetsBehind [] (earlier ++ part ++ '*' :: after) := by
      rw [List.append_assoc]
      exact mem_offsetsBehind_iff.mpr
        ⟨earlier, part, inOpening, after, rfl, atBoundary, rfl⟩
    exact List.mem_map_of_mem found

theorem pairwise_columns (line : Text) : (columns line).Pairwise (· < ·) := by
  apply List.pairwise_map.mpr
  apply (pairwise_offsetsBehind [] line).imp
  intro earlier later before
  exact Nat.succ_lt_succ before

/-- On the line with the index there is a star behind the text, which introduces
it. -/
def IsIntroduced (lines : List Text) (star : Nat × Text) : Prop :=
  ∃ after, lines[star.1]? = some (star.2 ++ '*' :: after) ∧ Introduced star.2

def finding (star : Nat × Text) : Finding :=
  ⟨star.1 + 1, Text.byteLength star.2 + 1, "Expected column names in SELECT"⟩

theorem mem_check_iff {lines : List Text} {found : Finding} :
    found ∈ check lines ↔ ∃ star,
      IsIntroduced lines star ∧ finding star = found := by
  rw [check, Finding.mem_onEachLine_iff]
  constructor
  · intro listed
    obtain ⟨index, line, column, here, inLine, rfl⟩ := listed
    obtain ⟨before, after, rfl, introduced, rfl⟩ := mem_columns_iff.mp inLine
    exact ⟨(index, before), ⟨after, here, introduced⟩, rfl⟩
  · intro starred
    obtain ⟨⟨index, before⟩, ⟨after, here, introduced⟩, rfl⟩ := starred
    exact ⟨index, _, _, here,
      mem_columns_iff.mpr ⟨before, after, rfl, introduced, rfl⟩, rfl⟩

/-- Of two texts from the start of a line the one with as many bytes is the
other. -/
theorem eq_of_byteLength_eq {before other after rest : Text}
    (same : before ++ after = other ++ rest)
    (lengths : Text.byteLength before = Text.byteLength other) :
    before = other := by
  have longer {text more : Text}
      (none : Text.byteLength text = Text.byteLength (text ++ more)) :
      more = [] := by
    cases more with
    | nil => rfl
    | cons character more =>
        have size := Char.utf8Size_pos character
        have counted : Text.byteLength (text ++ character :: more) =
            Text.byteLength text +
            (Text.byteLength [character] + Text.byteLength more) := by
          rw [← Text.byteLength_append, ← Text.byteLength_append]
          rfl
        have single : Text.byteLength [character] = character.utf8Size := by
          simp [Text.byteLength]
        omega
  rcases List.append_eq_append_iff.mp same with ⟨more, rfl, -⟩ | ⟨more, rfl, -⟩
  · rw [longer lengths, List.append_nil]
  · rw [longer lengths.symm, List.append_nil]

theorem finding_injective {lines : List Text} {first second : Nat × Text}
    (isFirst : IsIntroduced lines first) (isSecond : IsIntroduced lines second)
    (same : finding first = finding second) : first = second := by
  obtain ⟨index, before⟩ := first
  obtain ⟨otherIndex, other⟩ := second
  obtain ⟨after, here, -⟩ := isFirst
  obtain ⟨rest, there, -⟩ := isSecond
  simp only [finding, Finding.mk.injEq, Nat.add_right_cancel_iff] at same
  obtain ⟨rfl, lengths, -⟩ := same
  have sameBefore : before = other :=
    eq_of_byteLength_eq (Option.some.inj (here.symm.trans there)) lengths
  rw [sameBefore]

/-- The rule finds what a search of each line from left to right finds: in the
order of lines and columns, one finding for every star that an opening
introduces and no other. -/
theorem check_finds_introduced (lines : List Text) :
    check lines = Finding.onEachLine "Expected column names in SELECT"
        (fun line => (search 0 [] line).map (· + 1)) lines ∧
      (check lines).Pairwise Finding.Precedes ∧
      ∃ stars : List (Nat × Text), stars.Nodup ∧
        (∀ star, star ∈ stars ↔ IsIntroduced lines star) ∧
        check lines = stars.map finding := by
  have ordered : (check lines).Pairwise Finding.Precedes :=
    Finding.pairwise_onEachLine pairwise_columns lines
  have sources : ∀ found ∈ check lines,
      found ∈ Set.range fun star : {star // IsIntroduced lines star} =>
        finding star := by
    intro found member
    obtain ⟨star, isStar, same⟩ := mem_check_iff.mp member
    exact ⟨⟨star, isStar⟩, same⟩
  obtain ⟨stars, listed⟩ := (Set.range_list_map _).ge sources
  refine ⟨?_, ordered, stars.map Subtype.val, ?_, ?_, ?_⟩
  · rw [← funext columns_eq_search]
    rfl
  · have different : (check lines).Nodup := ordered.imp Finding.Precedes.ne
    rw [← listed] at different
    exact (different.of_map _).map Subtype.val_injective
  · intro star
    constructor
    · intro member
      obtain ⟨introduced, -, rfl⟩ := List.mem_map.mp member
      exact introduced.property
    · intro isStar
      have found := mem_check_iff.mpr ⟨star, isStar, rfl⟩
      rw [← listed] at found
      obtain ⟨other, member, same⟩ := List.mem_map.mp found
      rw [← finding_injective other.property isStar same]
      exact List.mem_map_of_mem member
  · rw [← listed, List.map_map]
    rfl

/-- Nothing that introduces a star stands before the one on the first line. -/
example :
    check ["SELECT 2 * 3,".toList, "(ſelect TOP (5)\t* FROM t)".toList] =
      [finding (1, "(ſelect TOP (5)\t".toList)] := by
  decide +kernel

end SelectStar

end QueryLint
