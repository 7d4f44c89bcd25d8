import QueryLint.Proofs.Content.Splitting

/-!
# What the lines of content hold

Different bytes are read as different texts.  A line of content holds no line
feed, and no character beyond the first 256.
-/

namespace QueryLint

theorem toNat_decoded (byte : UInt8) :
    (Char.ofNat byte.toNat).toNat = byte.toNat := by
  have small := byte.toNat_lt
  have valid : byte.toNat.isValidChar := Or.inl (by omega)
  rw [Char.ofNat, dif_pos valid]
  rfl

theorem decodeBytes_injective : Function.Injective decodeBytes := by
  apply List.map_injective_iff.mpr
  intro first second same
  apply UInt8.toNat_inj.mp
  rw [← toNat_decoded first, ← toNat_decoded second]
  exact congrArg Char.toNat same

theorem feedless_of_mem_splitLines {bytes line : List UInt8}
    (member : line ∈ splitLines bytes) :
    10 ∉ line :=
  ((splits_splitLines bytes).plain line member).noFeed

theorem feedless_of_mem_textLines {bytes : List UInt8} {line : Text}
    (member : line ∈ textLines bytes) : '\n' ∉ line := by
  obtain ⟨bytes, split, rfl⟩ := List.mem_map.mp member
  intro feed
  obtain ⟨byte, inBytes, decoded⟩ := List.mem_map.mp feed
  have number : byte.toNat = 10 := by
    rw [← toNat_decoded, decoded]
    rfl
  have isFeed : byte = 10 := UInt8.toNat_inj.mp number
  exact feedless_of_mem_splitLines split (isFeed ▸ inBytes)

namespace Content

theorem lt_of_mem_lines {content : Content} {line : Text}
    (member : line ∈ content.lines) {character : Char}
    (inside : character ∈ line) : character.toNat < 256 := by
  obtain ⟨bytes, -, rfl⟩ := List.mem_map.mp member
  obtain ⟨byte, -, rfl⟩ := List.mem_map.mp inside
  rw [toNat_decoded]
  exact byte.toNat_lt

theorem feedless_of_mem_lines {content : Content} {line : Text}
    (member : line ∈ content.lines) : '\n' ∉ line :=
  feedless_of_mem_textLines member

end Content

end QueryLint
