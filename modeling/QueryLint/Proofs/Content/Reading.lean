import QueryLint.Content.Cursor
import QueryLint.Proofs.Content.Lines
import QueryLint.Proofs.History

/-!
# Reading content with several readers

A reader of content may be copied at any time, and what one reader is asked is
nothing to the others.  At the end of the content a reader gives nothing more
until it is rewound.  As long as it has only read since it stood at the first
byte, it has given the content up to its position, each byte once.
-/

namespace QueryLint

/-- What a reader is asked. -/
inductive ReadRequest where
  | read (count : Nat)
  | peek
  | skip (count : Nat)
  | readAll
  | readText
  | readLines
  | scan
  | rewind
  deriving DecidableEq, Repr

/-- What a reader answers. -/
inductive ReadAnswer where
  | bytes (bytes : List UInt8)
  | text (text : Text)
  | lines (lines : List Text)
  | suppressions (suppressions : Suppressions)
  | done
  deriving DecidableEq, Repr

namespace ReadRequest

def rewinds : ReadRequest → Bool
  | rewind => true
  | _ => false

/-- The position moves over bytes that the answer does not give. -/
def strays : ReadRequest → Bool
  | skip _ | readLines | scan => true
  | _ => false

end ReadRequest

/-- The answer gives nothing of the content. -/
def ReadAnswer.isEmpty : ReadAnswer → Bool
  | bytes given => given.isEmpty
  | text given => given.isEmpty
  | lines given => given.isEmpty
  | suppressions given => given.isEmpty
  | done => true

/-- The bytes of which a text is the decoding. -/
def textBytes (text : Text) : List UInt8 :=
  text.map fun character => UInt8.ofNat character.toNat

theorem textBytes_decodeBytes (bytes : List UInt8) :
    textBytes (decodeBytes bytes) = bytes := by
  have same (byte : UInt8) : UInt8.ofNat (Char.ofNat byte.toNat).toNat =
      byte := by
    rw [toNat_decoded, UInt8.ofNat_toNat]
  simp [textBytes, decodeBytes, Function.comp_def, same]

namespace Cursor

def answer (cursor : Cursor) : ReadRequest → ReadAnswer × Cursor
  | .read count =>
      let (bytes, after) := cursor.read count
      (.bytes bytes, after)
  | .peek => (.bytes cursor.remaining, cursor)
  | .skip count => (.done, cursor.skip count)
  | .readAll =>
      let (bytes, after) := cursor.readAll
      (.bytes bytes, after)
  | .readText =>
      let (text, after) := cursor.readText
      (.text text, after)
  | .readLines =>
      let (lines, after) := cursor.readLines
      (.lines lines, after)
  | .scan =>
      let (suppressions, after) := cursor.scan
      (.suppressions suppressions, after)
  | .rewind => (.done, cursor.rewind)

/-- No request skips beyond the numbers that a position may have. -/
def Fits : Cursor → List ReadRequest → Prop
  | _, [] => True
  | cursor, request :: rest =>
      (∀ count, request = .skip count → cursor.position + count < UInt64.size) ∧
        Fits (cursor.answer request).2 rest

@[simp] theorem answer_bytes (cursor : Cursor) (request : ReadRequest) :
    (cursor.answer request).2.bytes = cursor.bytes := by
  cases request <;> rfl

theorem isExhausted_iff {cursor : Cursor} :
    cursor.isExhausted = true ↔ cursor.bytes.length ≤ cursor.position :=
  decide_eq_true_iff

theorem remaining_of_isExhausted {cursor : Cursor}
    (exhausted : cursor.isExhausted = true) :
    cursor.remaining = [] :=
  List.drop_of_length_le (isExhausted_iff.mp exhausted)

/-- At the end of the content every answer is empty, and only a rewound cursor
leaves the end. -/
theorem answer_of_isExhausted {cursor : Cursor}
    (exhausted : cursor.isExhausted = true) {request : ReadRequest}
    (goesOn : request.rewinds = false)
    (fits : ∀ count, request = .skip count →
      cursor.position + count < UInt64.size) :
    (cursor.answer request).1.isEmpty = true ∧
      (cursor.answer request).2.isExhausted = true := by
  have nothing := remaining_of_isExhausted exhausted
  have atEnd := isExhausted_iff.mp exhausted
  cases request with
  | read count =>
      simp [answer, read, nothing, isExhausted, ReadAnswer.isEmpty, atEnd]
  | peek => simp [answer, nothing, exhausted, ReadAnswer.isEmpty]
  | skip count =>
      refine ⟨rfl, ?_⟩
      have kept := Nat.mod_eq_of_lt (fits count rfl)
      simp only [answer, skip, isExhausted_iff, kept]
      omega
  | readAll =>
      simp [answer, readAll, read, nothing, isExhausted, ReadAnswer.isEmpty,
        atEnd]
  | readText =>
      simp [answer, readText, finish, nothing, isExhausted, ReadAnswer.isEmpty,
        decodeBytes]
  | readLines =>
      simp [answer, readLines, finish, nothing, isExhausted, ReadAnswer.isEmpty,
        textLines, splitLines]
  | scan =>
      simp only [answer, scan, readLines, nothing]
      exact ⟨rfl, isExhausted_iff.mpr le_rfl⟩
  | rewind => cases goesOn

end Cursor

/-- The bytes that the answer gives while the position moves over them. -/
def delivered : ReadRequest × ReadAnswer → List UInt8
  | (.read _, .bytes bytes) => bytes
  | (.readAll, .bytes bytes) => bytes
  | (.readText, .text text) => textBytes text
  | _ => []

theorem Cursor.take_read (cursor : Cursor) (count : Nat) :
    cursor.bytes.take (cursor.read count).2.position =
      cursor.bytes.take cursor.position ++ (cursor.read count).1 := by
  have taken :=
    List.prefix_iff_eq_take.mp (List.take_prefix count cursor.remaining)
  calc
    cursor.bytes.take (cursor.position + (cursor.remaining.take count).length)
    _ = cursor.bytes.take cursor.position ++
        cursor.remaining.take (cursor.remaining.take count).length :=
          List.take_add
    _ = cursor.bytes.take cursor.position ++ cursor.remaining.take count := by
      rw [← taken]

/-- A request that does not stray moves the position over what it gives. -/
theorem Cursor.take_answer (cursor : Cursor) {request : ReadRequest}
    (goesOn : request.rewinds = false) (straight : request.strays = false) :
    cursor.bytes.take (cursor.answer request).2.position =
      cursor.bytes.take cursor.position ++
      delivered (request, (cursor.answer request).1) := by
  cases request with
  | read count => exact cursor.take_read count
  | peek => exact (List.append_nil _).symm
  | readAll => exact cursor.take_read _
  | readText =>
      simp only [answer, readText, finish, delivered, textBytes_decodeBytes,
        remaining]
      rw [List.take_append_drop, List.take_length]
  | skip count => cases straight
  | readLines => cases straight
  | scan => cases straight
  | rewind => cases goesOn

/-- A cursor in use: the position at which it began, and what it has been asked
since. -/
structure Reader where
  cursor : Cursor
  origin : Nat
  history : History ReadRequest ReadAnswer
  deriving DecidableEq, Repr

namespace Reader

/-- A reader at the first byte. -/
def start (bytes : List UInt8) : Reader :=
  ⟨.start bytes, 0, []⟩

def ask (reader : Reader) (request : ReadRequest) : Reader :=
  let (answer, after) := reader.cursor.answer request
  { reader with
    cursor := after, history := reader.history ++ [(request, answer)] }

/-- Another reader, which begins where the reader stands. -/
def copy (reader : Reader) : Reader :=
  ⟨reader.cursor, reader.cursor.position, []⟩

/-- The reader has been at the first byte. -/
def HasBegun (reader : Reader) : Prop :=
  reader.origin = 0 ∨ ∃ event ∈ reader.history, event.1.rewinds = true

/-- What the reader has been asked since it was rewound, or since it began. -/
def recent (reader : Reader) : History ReadRequest ReadAnswer :=
  History.since ReadRequest.rewinds reader.history

/-- The reader has given what it has moved over. -/
def IsStraight (reader : Reader) : Prop :=
  ∀ event ∈ reader.recent, event.1.strays = false

theorem recent_ask (reader : Reader) {request : ReadRequest}
    (goesOn : request.rewinds = false) :
    (reader.ask request).recent =
      reader.recent ++ [(request, (reader.cursor.answer request).1)] :=
  History.since_concat _ _ goesOn _

theorem recent_ask_of_rewinds (reader : Reader) {request : ReadRequest}
    (again : request.rewinds = true) : (reader.ask request).recent = [] :=
  History.since_concat_of_kind _ _ again _

/-- The reader is one of the content, and if it has given all that it has moved
over since it was at the first byte, that is the content up to its position. -/
structure Delivers (bytes : List UInt8) (reader : Reader) : Prop where
  content : reader.cursor.bytes = bytes
  given : reader.HasBegun → reader.IsStraight →
    reader.recent.flatMap delivered = bytes.take reader.cursor.position

namespace Delivers

variable {bytes : List UInt8} {reader : Reader}

theorem start (bytes : List UInt8) : Delivers bytes (.start bytes) :=
  ⟨rfl, fun _ _ => rfl⟩

theorem copy (delivers : Delivers bytes reader) :
    Delivers bytes reader.copy := by
  refine ⟨delivers.content, fun begun _ => ?_⟩
  have first : reader.cursor.position = 0 := by
    rcases begun with origin | ⟨event, member, -⟩
    · exact origin
    · cases member
  change [] = bytes.take reader.cursor.position
  rw [first, List.take_zero]

theorem ask (delivers : Delivers bytes reader) (request : ReadRequest) :
    Delivers bytes (reader.ask request) := by
  refine ⟨(reader.cursor.answer_bytes request).trans delivers.content,
    fun begun straight => ?_⟩
  cases goesOn : request.rewinds with
  | true =>
      cases request with
      | rewind =>
          rw [recent_ask_of_rewinds reader goesOn]
          rfl
      | _ => cases goesOn
  | false =>
      rw [IsStraight, recent_ask reader goesOn] at straight
      obtain ⟨before, now⟩ := List.forall_mem_append.mp straight
      have begunBefore : reader.HasBegun := by
        refine begun.imp_right fun ⟨event, member, rewound⟩ => ?_
        rcases List.mem_append.mp member with old | new
        · exact ⟨event, old, rewound⟩
        · rw [List.mem_singleton.mp new, goesOn] at rewound
          cases rewound
      have moved :=
        reader.cursor.take_answer goesOn (now _ (List.mem_singleton_self _))
      rw [delivers.content] at moved
      rw [recent_ask reader goesOn, List.flatMap_append,
        delivers.given begunBefore before, List.flatMap_singleton]
      exact moved.symm

end Delivers

end Reader

/-- What is done with the readers of a content, which are numbered as they are
made. -/
inductive ReaderCall where
  | ask (number : Nat) (request : ReadRequest)
  | copy (number : Nat)
  deriving DecidableEq, Repr

namespace ReaderCall

def run (readers : List Reader) : ReaderCall → List Reader
  | ask number request => readers.modify number fun reader => reader.ask request
  | copy number => readers ++ (readers[number]?.map Reader.copy).toList

/-- What the call asks the reader of a number. -/
def asks? (number : Nat) : ReaderCall → Option ReadRequest
  | ask other request => if other = number then some request else none
  | copy _ => none

theorem getElem?_run {readers : List Reader} {number : Nat} {reader : Reader}
    (stands : readers[number]? = some reader) (call : ReaderCall) :
    (call.run readers)[number]? =
      some ((call.asks? number).elim reader reader.ask) := by
  cases call with
  | ask other request =>
      rw [run, List.getElem?_modify, stands, asks?]
      by_cases same : other = number <;> simp [same]
  | copy other =>
      obtain ⟨bound, -⟩ := List.getElem?_eq_some_iff.mp stands
      rw [run, List.getElem?_append_left bound, stands]
      rfl

/-- Calls make of a reader what the requests to it make of it, whatever is asked
of the others. -/
theorem getElem?_foldl_run {readers : List Reader} {number : Nat}
    {reader : Reader} (stands : readers[number]? = some reader)
    (calls : List ReaderCall) :
    (calls.foldl run readers)[number]? =
      some ((calls.filterMap (asks? number)).foldl Reader.ask reader) := by
  induction calls generalizing readers reader with
  | nil => exact stands
  | cons call rest ih =>
      have next := ih (getElem?_run stands call)
      rw [List.foldl_cons, next, List.filterMap_cons]
      cases call.asks? number <;> rfl

theorem delivers_run {bytes : List UInt8} {readers : List Reader}
    (delivers : ∀ reader ∈ readers, reader.Delivers bytes) (call : ReaderCall) :
    ∀ reader ∈ call.run readers, reader.Delivers bytes := by
  intro reader member
  cases call with
  | ask number request =>
      obtain ⟨place, stands⟩ := List.mem_iff_getElem?.mp member
      rw [run, List.getElem?_modify, Option.map_eq_map,
        Option.map_eq_some_iff] at stands
      obtain ⟨before, stood, became⟩ := stands
      have kept := delivers before (List.mem_of_getElem? stood)
      by_cases asked : number = place
      · rw [if_pos asked] at became
        exact became ▸ kept.ask request
      · rw [if_neg asked] at became
        exact became ▸ kept
  | copy number =>
      rcases List.mem_append.mp member with old | new
      · exact delivers reader old
      · obtain ⟨original, stands, rfl⟩ :=
          Option.map_eq_some_iff.mp (Option.mem_toList.mp new)
        exact (delivers original (List.mem_of_getElem? stands)).copy

end ReaderCall

namespace Reader

/-- The readers after calls that begin with one reader at the first byte. -/
def afterCalls (bytes : List UInt8) (calls : List ReaderCall) : List Reader :=
  calls.foldl ReaderCall.run [start bytes]

theorem delivers_of_mem_afterCalls {bytes : List UInt8}
    {calls : List ReaderCall} :
    ∀ reader ∈ afterCalls bytes calls, reader.Delivers bytes := by
  induction calls using List.reverseRecOn with
  | nil =>
      intro reader member
      obtain rfl := List.mem_singleton.mp member
      exact .start bytes
  | append_singleton calls call ih =>
      rw [afterCalls, List.foldl_concat]
      exact call.delivers_run ih

/-- A reader at the end of the content stays there and gives nothing, unless it
is rewound. -/
theorem foldl_ask_of_isExhausted {reader : Reader}
    (exhausted : reader.cursor.isExhausted = true)
    {requests : List ReadRequest} (fits : reader.cursor.Fits requests)
    (goesOn : ∀ request ∈ requests, request.rewinds = false) :
    (requests.foldl ask reader).cursor.isExhausted = true ∧
      ∃ events, (requests.foldl ask reader).history = reader.history ++ events ∧
        ∀ event ∈ events, event.2.isEmpty = true := by
  induction requests generalizing reader with
  | nil => exact ⟨exhausted, [], (List.append_nil _).symm, nofun⟩
  | cons request rest ih =>
      obtain ⟨here, later⟩ := fits
      obtain ⟨noRewind, noRewindLater⟩ := List.forall_mem_cons.mp goesOn
      obtain ⟨empty, stays⟩ :=
        Cursor.answer_of_isExhausted exhausted noRewind here
      obtain ⟨finished, events, grown, nothing⟩ :=
        @ih (reader.ask request) stays later noRewindLater
      refine ⟨finished, (request, (reader.cursor.answer request).1) ::
        events, ?_,
        List.forall_mem_cons.mpr ⟨empty, nothing⟩⟩
      rw [List.foldl_cons, grown]
      exact List.append_assoc ..

/-- A reader of a content is at its end exactly if its position is not before
it.  It stays as it is while only others are called.  Once at the end, it stays
there and gives nothing until it is rewound, unless it skips beyond the numbers.
If it has been at the first byte and has given all that it has moved over since,
that is the content up to its position, and the whole content once it is at the
end. -/
theorem state_by_history (bytes : List UInt8) (calls : List ReaderCall)
    {number : Nat} {reader : Reader}
    (stands : (afterCalls bytes calls)[number]? = some reader) :
    (reader.cursor.isExhausted = true ↔ bytes.length ≤ reader.cursor.position) ∧
      (∀ more : List ReaderCall, more.filterMap (ReaderCall.asks? number) = [] →
        (afterCalls bytes (calls ++ more))[number]? = some reader) ∧
      (reader.cursor.isExhausted = true →
        ∀ more : List ReaderCall,
          let requests := more.filterMap (ReaderCall.asks? number)
          reader.cursor.Fits requests →
            (∀ request ∈ requests, request ≠ .rewind) →
          ∃ later, (afterCalls bytes (calls ++ more))[number]? = some later ∧
            later.cursor.isExhausted = true ∧
            ∃ events, later.history = reader.history ++ events ∧
              ∀ event ∈ events, event.2.isEmpty = true) ∧
      (reader.HasBegun → reader.IsStraight →
        reader.recent.flatMap delivered = bytes.take reader.cursor.position ∧
        (reader.cursor.isExhausted = true →
          reader.recent.flatMap delivered = bytes)) := by
  have delivers :=
    delivers_of_mem_afterCalls reader (List.mem_of_getElem? stands)
  have atEnd : reader.cursor.isExhausted = true ↔
      bytes.length ≤ reader.cursor.position := by
    rw [Cursor.isExhausted_iff, delivers.content]
  have goOn (more : List ReaderCall) :
      (afterCalls bytes (calls ++ more))[number]? =
        some ((more.filterMap (ReaderCall.asks? number)).foldl ask reader) := by
    rw [afterCalls, List.foldl_append]
    exact ReaderCall.getElem?_foldl_run stands more
  refine ⟨atEnd, fun more others => ?_, fun exhausted more => ?_,
    fun begun straight => ⟨delivers.given begun straight, fun exhausted => ?_⟩⟩
  · rw [goOn, others]
    rfl
  · intro requests fits noRewind
    have goesOn : ∀ request ∈ requests, request.rewinds = false := by
      intro request member
      cases request with
      | rewind => exact absurd rfl (noRewind _ member)
      | _ => rfl
    exact ⟨_, goOn more, foldl_ask_of_isExhausted exhausted fits goesOn⟩
  · rw [delivers.given begun straight,
      List.take_of_length_le (atEnd.mp exhausted)]

/-- A reader has read one byte and then the rest as text, while its copy has
skipped past the end. -/
theorem state_by_history_of_copied_reader :
    let bytes : List UInt8 := [97, 98, 233]
    let calls : List ReaderCall :=
      [.ask 0 (.read 1), .copy 0, .ask 1 (.skip 7), .ask 0 .readText]
    let reader : Reader :=
      ⟨⟨bytes, 3⟩, 0,
        [(.read 1, .bytes [97]), (.readText, .text (decodeBytes [98, 233]))]⟩
    (afterCalls bytes calls)[0]? = some reader ∧
      reader.recent.flatMap delivered = bytes ∧
      (afterCalls bytes (calls ++ [.ask 1 .rewind, .ask 1 .scan]))[0]? =
        some reader ∧
      ∃ later,
        (afterCalls bytes (calls ++ [.ask 0 (.skip 5), .ask 0 (.read 2)]))[0]? =
          some later ∧
        later.cursor.isExhausted = true := by
  intro bytes calls reader
  have stands : (afterCalls bytes calls)[0]? = some reader := by decide +kernel
  obtain ⟨atEnd, alone, stays, given⟩ := state_by_history bytes calls stands
  have exhausted : reader.cursor.isExhausted = true := atEnd.mpr (by decide)
  have straight : reader.IsStraight := by
    rw [IsStraight]
    decide +kernel
  have fits : reader.cursor.Fits [.skip 5, .read 2] := by
    refine ⟨fun count skips => ?_, fun count skips => ?_, trivial⟩
    · cases skips
      decide
    · cases skips
  obtain ⟨later, standsLater, finished, -⟩ :=
    stays exhausted [.ask 0 (.skip 5), .ask 0 (.read 2)] fits (by decide)
  exact ⟨stands, (given (.inl rfl) straight).2 exhausted, alone _ rfl, later,
    standsLater, finished⟩

end Reader

end QueryLint
