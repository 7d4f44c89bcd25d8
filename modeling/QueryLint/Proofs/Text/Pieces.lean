import Mathlib.Data.List.DropRight
import QueryLint.Proofs.Text.Blanks

/-!
# Pieces of a text

Cutting a text at separators is cutting a list, so that what is known of lists
holds of texts.  `Trimmed` relates a text to what is left of it without the
white space around it, and trimming gives that and nothing else.
-/

namespace QueryLint.Text

variable {text core : Text}

theorem splitOn_eq_splitOnP (isSeparator : Char → Bool) (text : Text) :
    splitOn isSeparator text = List.splitOnP isSeparator text := by
  induction text with
  | nil => rfl
  | cons character rest ih =>
      rw [splitOn, ih, List.splitOnP_cons_eq_if_modifyHead]
      cases pieces : List.splitOnP isSeparator rest with
      | nil => exact absurd pieces (List.splitOnP_ne_nil isSeparator rest)
      | cons piece others => rfl

/-- With one separator alone, cutting goes the way of lists of anything. -/
theorem splitOn_beq (separator : Char) (text : Text) :
    splitOn (fun character => character == separator) text =
      List.splitOn separator text :=
  (splitOn_eq_splitOnP _ text).trans List.splitOn_eq_splitOnP.symm

theorem isSeparator_of_mem_splitOn {isSeparator : Char → Bool}
    {text piece : Text} {character : Char}
    (member : piece ∈ splitOn isSeparator text) (inside : character ∈ piece) :
    isSeparator character = false := by
  induction text generalizing piece with
  | nil =>
      rw [splitOn, List.mem_singleton] at member
      rw [member] at inside
      cases inside
  | cons first rest ih =>
      cases pieces : splitOn isSeparator rest with
      | nil => exact absurd pieces (splitOn_ne_nil isSeparator rest)
      | cons head others =>
          rw [pieces] at ih
          cases separates : isSeparator first with
          | true =>
              simp only [splitOn, pieces, separates, if_true] at member
              rcases List.mem_cons.mp member with rfl | later
              · cases inside
              · exact ih later inside
          | false =>
              simp only [splitOn, pieces, separates, Bool.false_eq_true,
                if_false] at member
              rcases List.mem_cons.mp member with rfl | later
              · rcases List.mem_cons.mp inside with rfl | inHead
                · exact separates
                · exact ih List.mem_cons_self inHead
              · exact ih (List.mem_cons_of_mem _ later) inside

theorem not_mem_of_mem_splitOn {separator : Char} {piece : Text}
    (member : piece ∈ List.splitOn separator text) : separator ∉ piece := by
  intro inside
  rw [← splitOn_beq] at member
  simpa using isSeparator_of_mem_splitOn member inside

/-- The core is the text without the white space around it. -/
structure Trimmed (text core : Text) : Prop where
  surrounded : ∃ before after, allBlank before = true ∧ allBlank after = true ∧
    before ++ core ++ after = text
  solidStart : ∀ character ∈ core.head?, isBlank character = false
  solidEnd : ∀ character ∈ core.getLast?, isBlank character = false

theorem trimEnd_eq_rdropWhile (text : Text) :
    trimEnd text = text.rdropWhile isBlank := by
  induction text using List.reverseRecOn with
  | nil => rfl
  | append_singleton text character ih =>
      rw [trimEnd_concat, List.rdropWhile_concat, ih]

theorem trimmed_trim (text : Text) : Trimmed text (trim text) := by
  obtain ⟨after, allAfter, ended⟩ := exists_trimEnd_append (trimStart text)
  refine ⟨
    ⟨text.takeWhile isBlank, after, List.all_takeWhile, allAfter, ?_⟩,
    ?_, ?_⟩
  · rw [trim, List.append_assoc, ended, trimStart,
      List.takeWhile_append_dropWhile]
  · intro character first
    have started : (trimStart text).head? = some character := by
      rw [← ended, List.head?_append]
      exact Option.or_eq_some_iff.mpr (Or.inl first)
    have solid := List.head?_dropWhile_not isBlank text
    rw [← trimStart, started] at solid
    exact solid
  · intro character last
    rw [trim, trimEnd_eq_rdropWhile] at last
    obtain ⟨filled, rfl⟩ := List.mem_getLast?_eq_getLast last
    exact Bool.eq_false_iff.mpr
      (List.rdropWhile_last_not isBlank (trimStart text) filled)

theorem trimmed_self
    (solidStart : ∀ character ∈ core.head?, isBlank character = false)
    (solidEnd : ∀ character ∈ core.getLast?, isBlank character = false) :
    Trimmed core core :=
  ⟨⟨[], [], rfl, rfl, List.append_nil core⟩, solidStart, solidEnd⟩

namespace Trimmed

theorem trim_eq (trimmed : Trimmed text core) : trim text = core := by
  obtain ⟨before, after, allBefore, allAfter, rfl⟩ := trimmed.surrounded
  have skipped : trimStart (before ++ core ++ after) =
      trimStart (core ++ after) := by
    rw [List.append_assoc]
    exact List.dropWhile_append_of_pos (List.all_eq_true.mp allBefore)
  rw [trim, skipped]
  cases core with
  | nil => rw [List.nil_append, trimStart_of_allBlank allAfter]; rfl
  | cons first rest =>
      have solid : isBlank first = false := trimmed.solidStart first rfl
      have kept : trimStart (first :: rest ++ after) =
          first :: rest ++ after := by
        simp [trimStart, solid]
      rw [kept, trimEnd_append_of_allBlank allAfter, trimEnd_eq_rdropWhile,
        List.rdropWhile_eq_self_iff]
      intro filled
      rw [Bool.not_eq_true]
      exact trimmed.solidEnd _ (List.getLast?_eq_some_getLast filled)

/-- A text that was trimmed has nothing more to trim. -/
theorem again (trimmed : Trimmed text core) : Trimmed core core :=
  trimmed_self trimmed.solidStart trimmed.solidEnd

end Trimmed

theorem trim_eq_iff : trim text = core ↔ Trimmed text core :=
  ⟨fun same => same ▸ trimmed_trim text, Trimmed.trim_eq⟩

end QueryLint.Text
