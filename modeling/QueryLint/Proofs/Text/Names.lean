import Mathlib.Data.List.Basic
import Mathlib.Data.List.Forall2
import QueryLint.Proofs.Text.Pieces
import QueryLint.Text.NameList

/-!
# What is in a list of names

The names in texts are what stands between their commas, without the white space
around it and unless nothing is left.  Of a name that repeats, a list keeps the
first, and every name of a list is read as itself.  So the first of several
texts may be replaced by the names in them, and the list stays the same.
-/

namespace QueryLint

open Text (Trimmed)

variable {text name : String} {names texts : List String}

/-- The name is the one name in itself. -/
structure IsListed (name : String) : Prop where
  filled : name ≠ ""
  undivided : ',' ∉ name.toList
  trimmed : Trimmed name.toList name.toList

/-- What is between the commas of texts, one text after the other, empty names
included. -/
def itemsIn (texts : List String) : List String :=
  (texts.flatMap fun text => List.splitOn ',' text.toList).map fun piece =>
    String.ofList (Text.trim piece)

theorem forall₂_trimmed_itemsIn (texts : List String) :
    List.Forall₂ (fun piece item => Trimmed piece item.toList)
      (texts.flatMap fun text => List.splitOn ',' text.toList)
      (itemsIn texts) := by
  rw [itemsIn, List.forall₂_map_right_iff, List.forall₂_same]
  intro piece _
  rw [String.toList_ofList]
  exact Text.trimmed_trim piece

theorem flatMap_namesIn (texts : List String) :
    texts.flatMap namesIn = (itemsIn texts).filter (· ≠ "") := by
  have filled (name : String) : (!name.isEmpty) = decide (name ≠ "") := by
    rw [Bool.eq_iff_iff]
    simp
  rw [itemsIn, List.map_flatMap, List.filter_flatMap]
  refine congrArg texts.flatMap (funext fun text => ?_)
  simp only [namesIn, Text.splitOn_beq, filled]

theorem isListed_of_mem_namesIn (member : name ∈ namesIn text) :
    IsListed name := by
  obtain ⟨cut, filled⟩ := List.mem_filter.mp member
  obtain ⟨piece, inPieces, rfl⟩ := List.mem_map.mp cut
  have trimmed : Trimmed piece (Text.trim piece) := Text.trimmed_trim piece
  obtain ⟨before, after, -, -, surrounded⟩ := trimmed.surrounded
  refine ⟨by simpa using filled, fun comma => ?_, ?_⟩
  · rw [Text.splitOn_beq] at inPieces
    rw [String.toList_ofList] at comma
    apply Text.not_mem_of_mem_splitOn inPieces
    rw [← surrounded]
    exact List.mem_append_left after (List.mem_append_right before comma)
  · rw [String.toList_ofList]
    exact trimmed.again

theorem IsListed.namesIn_eq (listed : IsListed name) :
    namesIn name = [name] := by
  rw [namesIn, Text.splitOn_beq, List.splitOn_eq_singleton listed.undivided,
    List.map_singleton, listed.trimmed.trim_eq, String.ofList_toList]
  simp [listed.filled]

theorem flatMap_namesIn_of_listed (listed : ∀ name ∈ names, IsListed name) :
    names.flatMap namesIn = names := by
  induction names with
  | nil => rfl
  | cons name others ih =>
      obtain ⟨first, later⟩ := List.forall_mem_cons.mp listed
      rw [List.flatMap_cons, first.namesIn_eq, ih later, List.singleton_append]

theorem addName_of_mem (member : name ∈ names) : addName names name = names :=
  if_pos (List.contains_iff_mem.mpr member)

theorem addName_of_not_mem (missing : name ∉ names) :
    addName names name = names ++ [name] :=
  if_neg (mt List.contains_iff_mem.mp missing)

/-- The list holds the names, each once and in the order in which they first
appear. -/
structure FirstAppearances (names list : List String) : Prop where
  mem_iff : ∀ name, name ∈ list ↔ name ∈ names
  ordered : list.Pairwise fun earlier later =>
    names.idxOf earlier < names.idxOf later

namespace FirstAppearances

variable {list : List String}

theorem add (appearances : FirstAppearances names list) (name : String) :
    FirstAppearances (names ++ [name]) (addName list name) := by
  -- a name at the end comes too late to be the first of those that are listed
  have still : list.Pairwise fun earlier later =>
      (names ++ [name]).idxOf earlier < (names ++ [name]).idxOf later := by
    refine appearances.ordered.imp_of_mem fun earlier later before => ?_
    rwa [List.idxOf_append_of_mem ((appearances.mem_iff _).mp earlier),
      List.idxOf_append_of_mem ((appearances.mem_iff _).mp later)]
  by_cases member : name ∈ list
  · rw [addName_of_mem member]
    refine ⟨fun other => ?_, still⟩
    rw [List.mem_append, ← appearances.mem_iff, List.mem_singleton,
      or_iff_left_of_imp]
    rintro rfl
    exact member
  · rw [addName_of_not_mem member]
    refine ⟨fun other => ?_,
      List.pairwise_append.mpr ⟨still, List.pairwise_singleton _ _, ?_⟩⟩
    · rw [List.mem_append, List.mem_append, appearances.mem_iff]
    · intro earlier inList later last
      have inNames : earlier ∈ names := (appearances.mem_iff earlier).mp inList
      obtain rfl := List.mem_singleton.mp last
      rw [List.idxOf_append_of_mem inNames,
        List.idxOf_append_of_notMem (mt (appearances.mem_iff later).mpr member)]
      exact (List.idxOf_lt_length_iff.mpr inNames).trans_le
        (Nat.le_add_right _ _)

theorem foldl_addName (names : List String) :
    FirstAppearances names (names.foldl addName []) := by
  induction names using List.reverseRecOn with
  | nil => exact ⟨fun _ => Iff.rfl, .nil⟩
  | append_singleton names name ih =>
      rw [List.foldl_append]
      exact ih.add name

theorem nodup (appearances : FirstAppearances names list) : list.Nodup :=
  appearances.ordered.imp fun before same => absurd before (by simp [same])

end FirstAppearances

theorem foldl_addName_of_nodup (nodup : names.Nodup) :
    names.foldl addName [] = names := by
  induction names using List.reverseRecOn with
  | nil => rfl
  | append_singleton names name ih =>
      obtain ⟨before, -, apart⟩ := List.nodup_append.mp nodup
      have missing : name ∉ names := fun member =>
        apart name member name (List.mem_singleton_self name) rfl
      rw [List.foldl_append, ih before]
      exact addName_of_not_mem missing

theorem firstAppearances_nameList (texts : List String) :
    FirstAppearances (texts.flatMap namesIn) (nameList texts) :=
  .foldl_addName _

theorem isListed_of_mem_nameList (member : name ∈ nameList texts) :
    IsListed name := by
  obtain ⟨text, -, inText⟩ :=
    List.mem_flatMap.mp
      (((firstAppearances_nameList texts).mem_iff name).mp member)
  exact isListed_of_mem_namesIn inText

/-- The names of a list, taken as texts, give the list again. -/
theorem nameList_nameList (texts : List String) :
    nameList (nameList texts) = nameList texts := by
  have names : (nameList texts).flatMap namesIn = nameList texts :=
    flatMap_namesIn_of_listed fun _ => isListed_of_mem_nameList
  rw [nameList, names]
  exact foldl_addName_of_nodup (firstAppearances_nameList texts).nodup

theorem nameList_append (texts more : List String) :
    nameList (texts ++ more) =
      (more.flatMap namesIn).foldl addName (nameList texts) := by
  rw [nameList, List.flatMap_append, List.foldl_append]
  rfl

theorem nameList_append_congr {others : List String}
    (same : nameList texts = nameList others) (more : List String) :
    nameList (texts ++ more) = nameList (others ++ more) := by
  rw [nameList_append, nameList_append, same]

/-- Texts may be replaced by the names in them before others are added. -/
theorem nameList_nameList_append (texts more : List String) :
    nameList (nameList texts ++ more) = nameList (texts ++ more) :=
  nameList_append_congr (nameList_nameList texts) more

end QueryLint
