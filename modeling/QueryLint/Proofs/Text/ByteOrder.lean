import Mathlib.Data.List.Basic
import Mathlib.Data.String.Basic

/-!
# The order of texts by their bytes

Texts are ordered by their characters.  UTF-8 writes a greater character with
greater bytes, and no character begins with all bytes of another one, so that
the bytes of texts are in the same order as the texts.
-/

namespace QueryLint.Text

/-- The bytes of a text in UTF-8. -/
def utf8Bytes (text : String) : List UInt8 :=
  text.toUTF8.data.toList

theorem utf8Bytes_eq (text : String) :
    utf8Bytes text = text.toList.flatMap String.utf8EncodeChar := by
  rw [utf8Bytes, String.toUTF8_eq_toByteArray, ← String.utf8Encode_toList]
  simp [List.utf8Encode]

/-- A smaller character has smaller bytes, whatever follows. -/
theorem utf8EncodeChar_append_lt
    {left right : Char} (smaller : left < right)
    (afterLeft afterRight : List UInt8) :
    String.utf8EncodeChar left ++ afterLeft <
      String.utf8EncodeChar right ++ afterRight := by
  have order : left.val.toNat < right.val.toNat := smaller
  have bound : right.val.toNat < 0x110000 := by
    rcases right.valid with low | high
    · exact low.trans (by decide)
    · exact high.2
  -- each digit to the base 64 is written in terms of the one after it
  have third (code : Nat) : code / 4096 = code / 64 / 64 := by omega
  have fourth (code : Nat) : code / 262144 = code / 64 / 64 / 64 := by omega
  simp only [String.utf8EncodeChar, third, fourth]
  split_ifs <;>
    simp only [List.cons_append, List.nil_append, List.cons_lt_cons_iff,
      UInt8.lt_iff_toNat_lt, ← UInt8.toNat_inj, UInt8.toNat_ofNat'] <;>
    omega

theorem utf8_lt_of_lt
    {left right : List Char} (smaller : left < right) :
    left.flatMap String.utf8EncodeChar <
      right.flatMap String.utf8EncodeChar := by
  induction left generalizing right with
  | nil =>
      cases right with
      | nil => exact absurd smaller (List.lt_irrefl _)
      | cons head tail =>
          have nonempty : String.utf8EncodeChar head ≠ [] :=
            String.utf8EncodeChar_ne_nil
          cases encoded : String.utf8EncodeChar head with
          | nil => exact absurd encoded nonempty
          | cons byte bytes => simp [encoded]
  | cons character rest ih =>
      cases right with
      | nil => exact absurd smaller (List.not_lt_nil _)
      | cons head tail =>
          rw [List.flatMap_cons, List.flatMap_cons]
          rcases List.cons_lt_cons_iff.mp smaller with first | ⟨same, later⟩
          · exact utf8EncodeChar_append_lt first _ _
          · rw [same]
            exact List.append_left_lt (ih later)

/-- Texts are in the order of their bytes. -/
theorem utf8Bytes_lt_iff (left right : String) :
    utf8Bytes left < utf8Bytes right ↔ left < right := by
  have forward : ∀ {first second : String}, first < second →
      utf8Bytes first < utf8Bytes second := by
    intro first second smaller
    rw [utf8Bytes_eq, utf8Bytes_eq]
    exact utf8_lt_of_lt smaller
  constructor
  · intro bytes
    rcases lt_trichotomy left right with smaller | same | greater
    · exact smaller
    · exact absurd (same ▸ bytes) (List.lt_irrefl _)
    · exact absurd (forward greater) (List.lt_asymm bytes)
  · exact forward

end QueryLint.Text
