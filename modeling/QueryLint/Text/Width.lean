import QueryLint.Text.Emoji
import QueryLint.Text.Joining

/-!
# Display width

The columns of a text are counted from its end to its start, since what stands
to the right of a character tells whether the two make one shape.  Escape
sequences are written in the text but take no columns on a terminal, apart from
their escape character.
-/

namespace QueryLint.Text

/-- What stands to the right of a character and may make one shape with it.  A
joined kind has a joiner in front; flag letters in front of a joiner are told
apart by whether they make pairs or leave one letter over; tags in front of
their end tag are counted from the end. -/
inductive Following where
  | plain
  | letter (joining : JoiningLetter) (joined : Bool)
  | emoji
  | skinTone
  | joinedEmoji
  | joinedKeycap
  | flagLetter
  | flagLetters
  | joinedFlagLetter
  | joinedFlagPairs
  | joinedFlagRest
  | tagLetters (count : Nat)
  | tagDigits (count : Nat)
  deriving DecidableEq, Repr, Inhabited

namespace Following

/-- What a character is to its neighbour on the left. -/
def ofChar (character : Char) : Following :=
  match JoiningLetter.ofChar? character with
  | some joining => .letter joining false
  | none =>
      if isFlagLetter character then .flagLetter
      else if isSkinTone character then .skinTone
      else if isEmoji character then .emoji
      else .plain

/-- A joiner stands in front of an emoji, or a joiner and a keycap do. -/
def isJoinedEmoji : Following → Bool
  | joinedEmoji | joinedKeycap => true
  | _ => false

/-- The columns that a character adds when it makes one shape with what follows,
and what the shape is to its neighbour on the left.  A flag letter adds more or
less than it takes where it changes how the letters after it pair up. -/
def join? (following : Following) (character : Char) :
    Option (Int × Following) :=
  match following with
  | plain | joinedKeycap => none
  | letter joining joined =>
      if joining.allowsBetween character then
        some (0, .letter joining (joined || character == joiner))
      else
        (joining.join? joined character).map fun shape =>
          (shape.1, (shape.2.map fun next => .letter next false).getD .plain)
  | emoji => if character == joiner then some (0, .joinedEmoji) else none
  | skinTone =>
      if takesSkinTone character then some (0, .emoji)
      else if character == joiner then some (0, .joinedEmoji)
      else none
  | flagLetter =>
      if isFlagLetter character then some (1, .flagLetters) else none
  | flagLetters =>
      if isFlagLetter character then some (1, .flagLetters)
      else if character == joiner then some (0, .joinedEmoji)
      else none
  | joinedEmoji =>
      if character == keycapMark then some (0, .joinedKeycap)
      else if isFlagLetter character then some (1, .joinedFlagLetter)
      else if isSkinTone character then some (0, .skinTone)
      else if isEndTag character then some (0, .tagLetters 0)
      else if isEmoji character then some (0, .emoji)
      else none
  | joinedFlagLetter =>
      if isFlagLetter character then some (-1, .joinedFlagPairs) else none
  | joinedFlagPairs =>
      if isFlagLetter character then some (3, .joinedFlagRest)
      else if character == joiner then some (0, .joinedEmoji)
      else none
  | joinedFlagRest =>
      if isFlagLetter character then some (-1, .joinedFlagPairs)
      else if character == joiner then some (0, .joinedEmoji)
      else none
  | tagLetters count =>
      if isTagLetter character && count < 6 then
        some (0, .tagLetters (count + 1))
      else if isTagDigit character && count < 5 then some (0, .tagDigits 1)
      else if isBlackFlag character && 3 ≤ count then some (0, .emoji)
      else none
  | tagDigits count =>
      if isTagDigit character && count < 3 then some (0, .tagDigits (count + 1))
      else if isBlackFlag character && count == 3 then some (0, .emoji)
      else none

end Following

/-- What stands to the right of a character, and the selectors between the
two. -/
structure Right where
  following : Following
  textForm : Bool
  emojiForm : Bool
  deriving DecidableEq, Repr, Inhabited

namespace Right

/-- No selector stands before what follows. -/
def of (following : Following) : Right :=
  ⟨following, false, false⟩

/-- The text selector has been put in front; only letters join across it. -/
def selectText (right : Right) : Right :=
  match right.following with
  | .letter _ _ => { right with textForm := true }
  | _ => ⟨.plain, true, false⟩

/-- The emoji selector has been put in front; letters and a joined emoji join
across it. -/
def selectEmoji (right : Right) : Right :=
  match right.following with
  | .letter _ _ | .joinedEmoji | .joinedKeycap =>
      { right with emojiForm := true }
  | _ => ⟨.plain, false, true⟩

/-- The emoji selector has met a character without an emoji form. -/
def dropEmojiForm (right : Right) : Right :=
  match right.emojiForm, right.following with
  | false, _ => right
  | true, .letter _ _ => { right with emojiForm := false }
  | true, _ => of .plain

/-- The columns that a character adds to what stands to its right, and what the
two are to their neighbour on the left. -/
def add (character : Char) (right : Right) : Int × Right :=
  if right.emojiForm && hasEmojiForm character then
    (if right.following.isJoinedEmoji then 0 else 2, of .emoji)
  else
    let right := right.dropEmojiForm
    if character.toNat ≤ 0xa0 then (1, of .plain)
    else if character == emojiSelector then (0, right.selectEmoji)
    else if character == textSelector then (0, right.selectText)
    else if right.textForm && hasTextForm character then (1, of .plain)
    else
      match right.following.join? character with
      | some (columns, following) => (columns, of following)
      | none => (charWidth character, of (.ofChar character))

end Right

/-- Columns that a text takes with its escape sequences, and what it is to its
neighbour on the left. -/
def measure (text : Text) : Int × Right :=
  text.foldr (fun character rest =>
    let (columns, right) := Right.add character rest.2
    (rest.1 + columns, right)) (0, .of .plain)

/-- Columns that a text takes when its escape sequences are written out. -/
def fullWidth (text : Text) : Nat :=
  (measure text).1.toNat

/-- Where a text stands with respect to escape sequences. -/
inductive EscapeState where
  | outside
  | escaped
  | inside
  deriving DecidableEq, Repr, Inhabited

/-- Columns that the characters of escape sequences would take, counted one for
each that takes any, their escape characters left out. -/
def hiddenCount : EscapeState → Text → Nat
  | _, [] => 0
  | .outside, character :: rest =>
      hiddenCount (if character == '\x1b' then .escaped else .outside) rest
  | .escaped, character :: rest =>
      if character == '[' then 1 + hiddenCount .inside rest
      else hiddenCount .outside rest
  | .inside, character :: rest =>
      (if hasColumns character then 1 else 0) +
        hiddenCount (if character == 'm' then .outside else .inside) rest

/-- Columns that a text takes on a terminal.  There is no answer when an escape
sequence holds characters that make one shape, so that more would be hidden than
the text takes. -/
def displayWidth? (text : Text) : Option Nat :=
  let hidden := hiddenCount .outside text
  if fullWidth text < hidden then none else some (fullWidth text - hidden)

end QueryLint.Text
