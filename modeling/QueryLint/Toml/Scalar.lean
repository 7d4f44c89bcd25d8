import QueryLint.Toml.Quoted
import QueryLint.Toml.Value

/-!
# Numbers, truth values and moments in TOML

A value that is not quoted and holds no other values is one word.  Its form
tells what it is.
-/

namespace QueryLint.Toml

/-- A character that an unquoted word may hold. -/
def isWordPart (character : Char) : Bool :=
  character.isAlphanum || character == '+' || character == '-' ||
    character == '_' ||
    character == '.' || character == ':'

/-- Digits with single underscores between them; the flag tells that a digit
stands in front.  Gives the digits alone. -/
def plainDigits? (isDigit : Char → Bool) :
    (afterDigit : Bool) → Text → Option Text
  | afterDigit, [] => if afterDigit then some [] else none
  | afterDigit, character :: rest =>
      if isDigit character then
        (plainDigits? isDigit true rest).map (character :: ·)
      else if character == '_' && afterDigit then
        plainDigits? isDigit false rest
      else none

def numberOf (base : Nat) (digits : Text) : Nat :=
  digits.foldl (fun number character =>
    base * number + (hexValue? character).getD 0) 0

/-- Digits without a zero in front of others. -/
def isCanonical : Text → Bool
  | '0' :: _ :: _ => false
  | _ => true

/-- An integer fits into 64 bits with sign. -/
def fitsInteger (number : Int) : Bool :=
  -9223372036854775808 ≤ number && number ≤ 9223372036854775807

/-- The integer that a word with its sign writes. -/
def integer? (negative : Bool) (digits : Text) : Option Int := do
  let plain ← plainDigits? Char.isDigit false digits
  guard (isCanonical plain)
  let magnitude : Int := numberOf 10 plain
  let number := if negative then -magnitude else magnitude
  guard (fitsInteger number)
  return number

/-- The integer that digits to another base write. -/
def basedInteger? (base : Nat) (digits : Text) : Option Int := do
  let isDigit (character : Char) : Bool :=
    match hexValue? character with
    | some digit => digit < base
    | none => false
  let plain ← plainDigits? isDigit false digits
  let number : Int := numberOf base plain
  guard (fitsInteger number)
  return number

/-- The text in front of the first character of a kind, and the text from there
on. -/
def cutAt (isCut : Char → Bool) (text : Text) : Text × Text :=
  (text.takeWhile fun character => !isCut character,
    text.dropWhile fun character => !isCut character)

def exponent? : Text → Option Int
  | '-' :: digits =>
      (plainDigits? Char.isDigit false digits).map fun plain =>
        -(numberOf 10 plain : Int)
  | '+' :: digits =>
      (plainDigits? Char.isDigit false digits).map fun plain =>
        numberOf 10 plain
  | digits => (plainDigits? Char.isDigit false digits).map fun plain =>
      numberOf 10 plain

/-- A decimal with a power of ten is less than the numbers that a floating point
number of 64 bits cannot come near. -/
def isFinite (digits : Nat) (power : Int) : Bool :=
  let limit := Nat.pow 2 1024 - Nat.pow 2 970
  if digits = 0 then true
  else if 400 < power then false
  else if 0 ≤ power then digits * Nat.pow 10 power.toNat < limit
  else if power < -(400 + digits.log2 : Int) then true
  else digits < limit * Nat.pow 10 (-power).toNat

/-- A word without its sign is a floating point number. -/
def isFloat (word : Text) : Bool :=
  let (mantissa, scale) :=
    cutAt (fun character => character == 'e' || character == 'E') word
  let (whole, fraction) := cutAt (fun character => character == '.') mantissa
  let wholeDigits := plainDigits? Char.isDigit false whole
  let fractionDigits :=
    match fraction with
    | [] => some []
    | _ :: digits => plainDigits? Char.isDigit false digits
  let power :=
    match scale with
    | [] => some 0
    | _ :: written => exponent? written
  match wholeDigits, fractionDigits, power with
  | some wholeDigits, some fractionDigits, some power =>
      isCanonical wholeDigits && !(fraction.isEmpty && scale.isEmpty) &&
        isFinite (numberOf 10 (wholeDigits ++ fractionDigits))
          (power - fractionDigits.length)
  | _, _, _ => false

/-- The number of exactly so many digits in front of a text, and the rest. -/
def takeNumber? (count : Nat) (text : Text) : Option (Nat × Text) :=
  let digits := text.take count
  if digits.length = count && digits.all Char.isDigit then
    some (numberOf 10 digits, text.drop count)
  else none

/-- The text after a given character. -/
def after? (expected : Char) : Text → Option Text
  | character :: rest => if character == expected then some rest else none
  | [] => none

def daysIn (year month : Nat) : Nat :=
  if month = 2 then
    if year % 4 = 0 && (year % 100 ≠ 0 || year % 400 = 0) then 29 else 28
  else if month = 4 || month = 6 || month = 9 || month = 11 then 30
  else 31

/-- The text after a date. -/
def afterDate? (text : Text) : Option Text := do
  let (year, text) ← takeNumber? 4 text
  let text ← after? '-' text
  let (month, text) ← takeNumber? 2 text
  let text ← after? '-' text
  let (day, text) ← takeNumber? 2 text
  guard (1 ≤ month && month ≤ 12 && 1 ≤ day && day ≤ daysIn year month)
  return text

/-- The text after a fraction of a second, if there is one. -/
def afterFraction? : Text → Option Text
  | '.' :: digits =>
      let rest := digits.dropWhile Char.isDigit
      if rest.length < digits.length then some rest else none
  | text => some text

/-- The text after the seconds of a time, which may be missing. -/
def afterSeconds? : Text → Option Text
  | ':' :: text => do
      let (second, text) ← takeNumber? 2 text
      guard (second ≤ 60)
      afterFraction? text
  | text => some text

/-- The text after a time of day. -/
def afterTime? (text : Text) : Option Text := do
  let (hour, text) ← takeNumber? 2 text
  let text ← after? ':' text
  let (minute, text) ← takeNumber? 2 text
  guard (hour ≤ 23 && minute ≤ 59)
  afterSeconds? text

/-- The text after an offset from universal time, if there is one. -/
def afterOffset? : Text → Option Text
  | 'Z' :: rest => some rest
  | 'z' :: rest => some rest
  | sign :: rest =>
      if sign == '+' || sign == '-' then do
        let (hour, rest) ← takeNumber? 2 rest
        let rest ← after? ':' rest
        let (minute, rest) ← takeNumber? 2 rest
        guard (hour ≤ 23 && minute ≤ 59)
        return rest
      else some (sign :: rest)
  | [] => some []

/-- A word is a date, a time of day or both. -/
def isMoment (word : Text) : Bool :=
  match afterDate? word with
  | some [] => true
  | some (separator :: time) =>
      (separator == 'T' || separator == 't' || separator == ' ') &&
        ((afterTime? time).bind afterOffset? == some [])
  | none => afterTime? word == some []

def wordValue? (word : Text) : Option Value :=
  let written := String.ofList word
  match written with
  | "true" => some (.flag true)
  | "false" => some (.flag false)
  | "inf" | "+inf" | "-inf" | "nan" | "+nan" | "-nan" => some (.float written)
  | _ =>
      let based :=
        match word with
        | '0' :: 'x' :: digits => basedInteger? 16 digits
        | '0' :: 'o' :: digits => basedInteger? 8 digits
        | '0' :: 'b' :: digits => basedInteger? 2 digits
        | _ => none
      let (negative, unsigned) :=
        match word with
        | '-' :: rest => (true, rest)
        | '+' :: rest => (false, rest)
        | _ => (false, word)
      match based.orElse fun _ => integer? negative unsigned with
      | some number => some (.integer number)
      | none =>
          if isFloat unsigned then some (.float written)
          else if isMoment word then some (.moment written)
          else none

/-- Reads a word.  A blank between a date and a time of day belongs to the
word. -/
def readWord (text : Text) : Except Text (Value × Text) :=
  let word := text.takeWhile isWordPart
  let rest := text.dropWhile isWordPart
  let (word, rest) :=
    match rest with
    | ' ' :: digit :: _ =>
        if afterDate? word == some [] && digit.isDigit then
          (word ++ ' ' :: (rest.drop 1).takeWhile isWordPart,
            (rest.drop 1).dropWhile isWordPart)
        else (word, rest)
    | _ => (word, rest)
  match wordValue? word with
  | some value => .ok (value, rest)
  | none => .error text

end QueryLint.Toml
