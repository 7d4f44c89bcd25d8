import Mathlib.Data.List.Sort
import Mathlib.Data.String.Basic
import QueryLint.Ordered

/-!
# Looking up and ordering of association lists

An entry that is put under a key is found under it and hides no other entry.
The keys of a list that is built by putting entries ascend strictly, so that the
list is determined by its entries.
-/

namespace QueryLint.Ordered

variable {α : Type}

/-- The keys ascend strictly. -/
def Ascending (entries : List (String × α)) : Prop :=
  entries.Pairwise fun left right => left.1 < right.1

@[simp] theorem find?_put_self
    (key : String) (value : α) (entries : List (String × α)) :
    find? key (put key value entries) = some value := by
  induction entries with
  | nil => simp [put, find?]
  | cons entry rest ih =>
      obtain ⟨other, present⟩ := entry
      simp only [put]
      split_ifs with before same
      · simp [find?]
      · simp [find?]
      · simp [find?, same, ih]

theorem find?_put_of_ne
    {key other : String} (different : other ≠ key)
    (value : α) (entries : List (String × α)) :
    find? other (put key value entries) = find? other entries := by
  induction entries with
  | nil => simp [put, find?, different]
  | cons entry rest ih =>
      obtain ⟨present, old⟩ := entry
      simp only [put]
      split_ifs with before same
      · simp [find?, different]
      · subst present
        simp [find?, different]
      · by_cases found : other = present
        · simp [find?, found]
        · simp [find?, found, ih]

/-- An entry with a new key adds to the others. -/
theorem put_perm_of_not_has
    {key : String} {entries : List (String × α)}
    (absent : has key entries = false) (value : α) :
    (put key value entries).Perm ((key, value) :: entries) := by
  induction entries with
  | nil => exact List.Perm.refl _
  | cons entry rest ih =>
      obtain ⟨other, present⟩ := entry
      have different : key ≠ other := by
        intro same
        simp [has, find?, same] at absent
      have absentRest : has key rest = false := by
        simpa [has, find?, different] using absent
      simp only [put]
      split_ifs with before
      · exact List.Perm.refl _
      · exact ((ih absentRest).cons _).trans (List.Perm.swap _ _ _)

theorem eq_or_mem_of_mem_put {key : String} {value : α} {entry : String × α}
    {entries : List (String × α)} (member : entry ∈ put key value entries) :
    entry = (key, value) ∨ entry ∈ entries := by
  induction entries with
  | nil => exact Or.inl (List.mem_singleton.mp member)
  | cons head rest ih =>
      obtain ⟨other, present⟩ := head
      simp only [put] at member
      split_ifs at member with before same
      · exact List.mem_cons.mp member
      · rcases List.mem_cons.mp member with new | old
        · exact Or.inl new
        · exact Or.inr (List.mem_cons_of_mem _ old)
      · rcases List.mem_cons.mp member with first | later
        · exact Or.inr (first ▸ List.mem_cons_self)
        · exact (ih later).imp_right (List.mem_cons_of_mem _)

theorem ascending_put
    {entries : List (String × α)} (ascending : Ascending entries)
    (key : String) (value : α) : Ascending (put key value entries) := by
  induction entries with
  | nil => exact List.pairwise_singleton _ _
  | cons entry rest ih =>
      obtain ⟨other, present⟩ := entry
      obtain ⟨above, ascendingRest⟩ := List.pairwise_cons.mp ascending
      simp only [put]
      split_ifs with before same
      · refine List.pairwise_cons.mpr ⟨?_, ascending⟩
        intro later member
        rcases List.mem_cons.mp member with rfl | member
        · exact before
        · exact before.trans (above later member)
      · subst other
        exact List.pairwise_cons.mpr ⟨above, ascendingRest⟩
      · refine List.pairwise_cons.mpr ⟨?_, ih ascendingRest⟩
        intro later member
        have after : other < key :=
          lt_of_le_of_ne (not_lt.mp before) (Ne.symm same)
        rcases eq_or_mem_of_mem_put member with rfl | old
        · exact after
        · exact above later old

/-- In ascending order, a value is found under a key exactly when the two are
an entry. -/
theorem find?_eq_some_iff
    {entries : List (String × α)} (ascending : Ascending entries)
    {key : String} {value : α} :
    find? key entries = some value ↔ (key, value) ∈ entries := by
  induction entries with
  | nil => simp [find?]
  | cons entry rest ih =>
      obtain ⟨other, present⟩ := entry
      obtain ⟨above, ascendingRest⟩ := List.pairwise_cons.mp ascending
      by_cases same : key = other
      · have absent : (key, value) ∉ rest := by
          intro member
          have later : other < key := above _ member
          exact absurd (same ▸ later) (lt_irrefl _)
        simp [find?, same, same ▸ absent, eq_comm]
      · simp [find?, same, ih ascendingRest]

/-- Ascending lists with the same entries are the same. -/
theorem eq_of_ascending
    {left right : List (String × α)}
    (leftAscending : Ascending left) (rightAscending : Ascending right)
    (sameEntries : ∀ entry, entry ∈ left ↔ entry ∈ right) : left = right := by
  have distinct : ∀ {entries : List (String × α)}, Ascending entries →
      entries.Nodup := by
    intro entries ascending
    exact ascending.imp fun smaller same =>
      absurd (same ▸ smaller) (lt_irrefl _)
  have permutation : left.Perm right :=
    (List.perm_ext_iff_of_nodup (distinct leftAscending)
      (distinct rightAscending)).mpr sameEntries
  refine List.Perm.eq_of_pairwise ?_ leftAscending rightAscending permutation
  intro first second _ _ smaller greater
  exact absurd greater (lt_asymm smaller)

theorem has_iff_mem_keys {key : String} {entries : List (String × α)} :
    has key entries = true ↔ key ∈ keys entries := by
  induction entries with
  | nil => simp [has, find?, keys]
  | cons entry rest ih =>
      obtain ⟨other, value⟩ := entry
      by_cases same : key = other
      · simp [has, find?, keys, same]
      · simpa [has, find?, keys, same] using ih

theorem ascending_iff {entries : List (String × α)} :
    Ascending entries ↔ (keys entries).Pairwise (· < ·) :=
  List.pairwise_map.symm

/-- A value that takes the place of another adds no key. -/
theorem keys_put_of_mem {key : String} {entries : List (String × α)}
    (ascending : (keys entries).Pairwise (· < ·))
    (member : key ∈ keys entries) (value : α) :
    keys (put key value entries) = keys entries := by
  induction entries with
  | nil => cases member
  | cons entry rest ih =>
      obtain ⟨other, present⟩ := entry
      obtain ⟨above, ascendingRest⟩ := List.pairwise_cons.mp ascending
      by_cases same : key = other
      · subst same
        simp [put, keys]
      · have later : key ∈ keys rest :=
          (List.mem_cons.mp member).resolve_left same
        have behind : ¬ key < other := lt_asymm (above key later)
        simpa [put, keys, same, behind] using ih ascendingRest later

/-- The list with entries put into it one after the other. -/
def putAll (entries others : List (String × α)) : List (String × α) :=
  entries.foldl (fun sorted entry => put entry.1 entry.2 sorted) others

theorem find?_append (key : String) (entries others : List (String × α)) :
    find? key (entries ++ others) =
      (find? key entries <|> find? key others) := by
  induction entries with
  | nil => rfl
  | cons entry rest ih =>
      obtain ⟨other, value⟩ := entry
      by_cases same : key = other
      · simp [find?, same]
      · simp [find?, same, ih]

/-- Of several entries that are put under a key the last one stays, and it hides
what was there before. -/
theorem find?_putAll (key : String) (entries others : List (String × α)) :
    find? key (putAll entries others) =
      (find? key entries.reverse <|> find? key others) := by
  induction entries generalizing others with
  | nil => rfl
  | cons entry rest ih =>
      obtain ⟨other, value⟩ := entry
      have first : find? key (put other value others) =
          (find? key [(other, value)] <|> find? key others) := by
        by_cases same : key = other
        · subst same
          simp [find?]
        · simp [find?, find?_put_of_ne same, same]
      change find? key (putAll rest (put other value others)) = _
      rw [ih, first, List.reverse_cons, find?_append]
      cases find? key rest.reverse <;> rfl

theorem ascending_putAll {others : List (String × α)}
    (ascending : Ascending others) (entries : List (String × α)) :
    Ascending (putAll entries others) := by
  induction entries generalizing others with
  | nil => exact ascending
  | cons entry rest ih => exact ih (ascending_put ascending entry.1 entry.2)

/-- Where each value has a name of its own, the value that is found by a name is
the one that has it. -/
theorem find?_named_eq_some_iff
    {κ : Type} [BEq κ] [LawfulBEq κ] {name : α → κ} {all : List α}
    (complete : ∀ value, value ∈ all) (injective : Function.Injective name)
    {value : α} {key : κ} :
    all.find? (fun other => name other == key) = some value ↔
      name value = key := by
  have named : ∀ {other},
      all.find? (fun other => name other == key) = some other →
      name other = key := by
    intro other found
    have same := List.find?_some found
    exact beq_iff_eq.mp same
  constructor
  · exact named
  · intro same
    have some : (all.find? fun other => name other == key).isSome = true := by
      rw [List.find?_isSome]
      exact ⟨value, complete value, beq_iff_eq.mpr same⟩
    obtain ⟨other, found⟩ := Option.isSome_iff_exists.mp some
    rw [found, injective ((named found).trans same.symm)]

end QueryLint.Ordered
