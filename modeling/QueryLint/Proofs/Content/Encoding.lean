import QueryLint.Content.Cursor
import QueryLint.Proofs.Content.Lines
import QueryLint.Proofs.Content.Splitting

/-!
# Encoding a query and cutting it into lines

The encoding of a query has a byte for each character, and characters beyond
ASCII are read back as question marks.  Different bytes are read as different
texts, which are encoded as the same bytes again exactly if these are ASCII.  No
character but a carriage return or a line feed is encoded as one, so that a
query has the lines of its text.
-/

namespace QueryLint

open LineMarks

/-- The byte of one character. -/
def encodeByte (character : Char) : UInt8 :=
  if character.toNat < 128 then character.toNat.toUInt8 else '?'.toNat.toUInt8

/-- What a character is read as once it has been encoded. -/
def readAs (character : Char) : Char :=
  if character.toNat < 128 then character else '?'

/-- The characters that end lines. -/
def LineMarks.ofText : LineMarks Char :=
  ⟨'\r', '\n', by decide⟩

theorem toNat_encodeByte (character : Char) :
    (encodeByte character).toNat = (readAs character).toNat := by
  rw [encodeByte, readAs]
  split
  next ascii =>
    rw [Nat.toUInt8_eq, UInt8.toNat_ofNat']
    exact Nat.mod_eq_of_lt (by omega)
  next => rfl

theorem ofNat_encodeByte (character : Char) :
    Char.ofNat (encodeByte character).toNat = readAs character := by
  rw [toNat_encodeByte, Char.ofNat_toNat]

theorem decodeBytes_encodeBytes (text : Text) :
    decodeBytes (encodeBytes text) = text.map readAs := by
  change (text.map encodeByte).map _ = _
  rw [List.map_map]
  exact List.map_congr_left fun character _ => ofNat_encodeByte character

theorem encodeByte_ofNat_iff (byte : UInt8) :
    encodeByte (Char.ofNat byte.toNat) = byte ↔ byte < 128 := by
  rw [← UInt8.toNat_inj, toNat_encodeByte, UInt8.lt_iff_toNat_lt, readAs,
    toNat_decoded]
  split
  next ascii => exact iff_of_true (toNat_decoded byte) ascii
  next other =>
    refine iff_of_false (fun same => other ?_) other
    rw [← same]
    decide

theorem encodeBytes_decodeBytes_iff {bytes : List UInt8} :
    encodeBytes (decodeBytes bytes) = bytes ↔ ∀ byte ∈ bytes, byte < 128 := by
  have mapped : encodeBytes (decodeBytes bytes) =
      bytes.map fun byte => encodeByte (Char.ofNat byte.toNat) := List.map_map
  calc
    encodeBytes (decodeBytes bytes) = bytes
    _ ↔ (bytes.map fun byte => encodeByte (Char.ofNat byte.toNat)) =
      bytes.map id := by
      rw [mapped, List.map_id]
    _ ↔ ∀ byte ∈ bytes, encodeByte (Char.ofNat byte.toNat) =
      byte := List.map_inj_left
    _ ↔ ∀ byte ∈ bytes, byte < 128 := forall₂_congr fun byte _ =>
      encodeByte_ofNat_iff byte

/-- A byte of ASCII other than the question mark encodes one character alone. -/
theorem encodeByte_eq_iff {byte : UInt8} (ascii : byte < 128)
    (unmarked : byte ≠ 63) (character : Char) :
    encodeByte character = byte ↔ character = Char.ofNat byte.toNat := by
  constructor
  · intro encoded
    have read : Char.ofNat byte.toNat = readAs character := by
      rw [← encoded, ofNat_encodeByte]
    rw [read, readAs]
    split
    next => rfl
    next other => exact absurd (encoded.symm.trans (if_neg other)) unmarked
  · intro decoded
    rw [decoded]
    exact (encodeByte_ofNat_iff byte).mpr ascii

theorem keeps_encodeByte : ofText.Keeps ofBytes encodeByte where
  carriage := encodeByte_eq_iff (by decide) (by decide)
  feed := encodeByte_eq_iff (by decide) (by decide)

/-- A text can be cut into lines, and the bytes that encode it are cut at the
same places. -/
theorem exists_splits_text (text : Text) :
    ∃ lines, ofText.Splits text lines ∧
      splitLines (encodeBytes text) = lines.map encodeBytes := by
  obtain ⟨lines, splits, encoded⟩ :=
    keeps_encodeByte.exists_splits (splits_splitLines (encodeBytes text))
  exact ⟨lines, splits, encoded.symm⟩

theorem textLines_encodeBytes {text : Text} {lines : List Text}
    (encoded : splitLines (encodeBytes text) = lines.map encodeBytes) :
    textLines (encodeBytes text) = lines.map (List.map readAs) := by
  rw [textLines, encoded, List.map_map]
  exact List.map_congr_left fun line _ => decodeBytes_encodeBytes line

namespace Content

/-- A text is encoded with a byte for each character, and read back with a
question mark for each beyond ASCII.  Bytes are read with a character for each,
no two alike, and encoded again as the same if they are ASCII.  There is one way
to cut a text at the ends of its lines; the query delivers these lines as they
are read back, and so does a file that holds its bytes, with as many lines and
the same directives. -/
theorem encoding_keeps_lines (text : String) (bytes : List UInt8) :
    let encoded := encodeBytes text.toList
    let query := ofQuery text
    encoded.length = text.length ∧
      decodeBytes encoded = text.toList.map readAs ∧
      (decodeBytes bytes).length = bytes.length ∧
      Function.Injective decodeBytes ∧
      (encodeBytes (decodeBytes bytes) = bytes ↔ ∀ byte ∈ bytes, byte < 128) ∧
      ∃ lines, (∀ others, ofText.Splits text.toList others ↔ others = lines) ∧
        let delivered := lines.map (List.map readAs)
        (Cursor.start query.bytes).readLines.1 = delivered ∧
        query.lineCount = lines.length ∧
        (Cursor.start query.bytes).scan.1 = Suppressions.ofLines delivered ∧
        ∀ unit path, let file := ofFile unit path encoded
          (Cursor.start file.bytes).readLines.1 = delivered ∧
          file.lineCount = lines.length ∧
          (Cursor.start file.bytes).scan.1 =
            Suppressions.ofLines delivered := by
  intro encoded query
  obtain ⟨lines, splits, cut⟩ := exists_splits_text text.toList
  have delivered : textLines encoded = lines.map (List.map readAs) :=
    textLines_encodeBytes cut
  have counted : (splitLines encoded).length = lines.length := by
    rw [cut, List.length_map]
  have directives : Suppressions.ofLines (textLines encoded) =
      Suppressions.ofLines (lines.map (List.map readAs)) := congrArg _ delivered
  refine ⟨?_, decodeBytes_encodeBytes text.toList, List.length_map _,
    decodeBytes_injective, encodeBytes_decodeBytes_iff, lines, fun others => ?_,
    delivered, counted, directives,
    fun unit path => ⟨delivered, counted, directives⟩⟩
  · exact (List.length_map _).trans String.length_toList
  · constructor
    · intro also
      exact also.unique splits
    · intro same
      rw [same]
      exact splits

/-- The separators of lines and the next-line character beyond ASCII end no
line. -/
example :
    (ofQuery "\u00e9\r\na\u2028b\u0085").lines =
      ["?".toList, "a?b?".toList] := by
  decide +kernel

end Content

end QueryLint
