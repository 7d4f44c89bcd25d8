import QueryLint.Toml.Reading

/-!
# Quoted texts in TOML

Basic strings stand between double quotes and know escapes; literal strings
stand between single quotes and know none.  Three quotes open a string of
several lines, whose first line end does not count; the others stay as they
are.
-/

namespace QueryLint.Toml

def hexValue? (character : Char) : Option Nat :=
  if '0' ≤ character && character ≤ '9' then some (character.toNat - 48)
  else if 'a' ≤ character && character ≤ 'f' then some (character.toNat - 87)
  else if 'A' ≤ character && character ≤ 'F' then some (character.toNat - 55)
  else none

/-- The number that hexadecimal digits write. -/
def hexNumber? (digits : Text) : Option Nat :=
  digits.foldlM (fun number character =>
    (hexValue? character).map fun digit => 16 * number + digit) 0

/-- The character that so many hexadecimal digits write. -/
def readCodePoint (count : Nat) (text : Text) : Except Text (Char × Text) :=
  let digits := text.take count
  if digits.length < count then .error text
  else
    match hexNumber? digits with
    | none => .error text
    | some number =>
        if number.isValidChar then .ok (Char.ofNat number, text.drop count)
        else .error text

/-- The character that an escape stands for; the text begins after the
backslash. -/
def readEscape : Text → Except Text (Char × Text)
  | 'b' :: rest => .ok ('\x08', rest)
  | 't' :: rest => .ok ('\t', rest)
  | 'n' :: rest => .ok ('\n', rest)
  | 'f' :: rest => .ok ('\x0c', rest)
  | 'r' :: rest => .ok ('\r', rest)
  | 'e' :: rest => .ok ('\x1b', rest)
  | '"' :: rest => .ok ('"', rest)
  | '\\' :: rest => .ok ('\\', rest)
  | 'x' :: rest => readCodePoint 2 rest
  | 'u' :: rest => readCodePoint 4 rest
  | 'U' :: rest => readCodePoint 8 rest
  | text => .error text

/-- The text after a backslash that ends its line: white space, the line end,
and all white space and line ends after it. -/
def afterContinuation? (text : Text) : Option Text :=
  let isBreak (character : Char) : Bool :=
    isSpace character || character == '\n'
  let rec skip : Text → Text
    | '\r' :: '\n' :: rest => skip rest
    | character :: rest =>
        if isBreak character then skip rest else character :: rest
    | [] => []
  match skipSpaces text with
  | '\n' :: rest => some (skip rest)
  | '\r' :: '\n' :: rest => some (skip rest)
  | _ => none

/-- The quotes in front of a text, and the text after them. -/
def takeQuotes (quote : Char) (text : Text) : Nat × Text :=
  ((text.takeWhile fun character => character == quote).length,
    text.dropWhile fun character => character == quote)

/-- Reads the rest of a string on one line, for as many characters as the fuel
allows; the characters read so far are in reverse order. -/
def readLine (quote : Char) :
    (fuel : Nat) → (read : Text) → Text → Except Text (String × Text)
  | 0, _, text => .error text
  | _, _, [] => .error []
  | fuel + 1, read, character :: rest =>
      if character == quote then .ok (String.ofList read.reverse, rest)
      else if character == '\\' && quote == '"' then
        match readEscape rest with
        | .error failure => .error failure
        | .ok (escaped, after) => readLine quote fuel (escaped :: read) after
      else if isPrintable character then
        readLine quote fuel (character :: read) rest
      else .error (character :: rest)

/-- Reads the rest of a string of several lines.  Up to two quotes may stand
before the three that close it. -/
def readLines (quote : Char) :
    (fuel : Nat) → (read : Text) → Text → Except Text (String × Text)
  | 0, _, text => .error text
  | _, _, [] => .error []
  | fuel + 1, read, character :: rest =>
      if character == quote then
        let (count, after) := takeQuotes quote (character :: rest)
        if count < 3 then
          readLines quote fuel (List.replicate count quote ++ read) after
        else if count ≤ 5 then
          .ok
            (String.ofList ((List.replicate (count - 3) quote ++ read).reverse),
              after)
        else .error after
      else if character == '\\' && quote == '"' then
        match afterContinuation? rest with
        | some after => readLines quote fuel read after
        | none =>
            match readEscape rest with
            | .error failure => .error failure
            | .ok (escaped, after) =>
                readLines quote fuel (escaped :: read) after
      else if character == '\n' then readLines quote fuel ('\n' :: read) rest
      else if character == '\r' then
        match rest with
        | '\n' :: after => readLines quote fuel ('\n' :: '\r' :: read) after
        | _ => .error (character :: rest)
      else if isPrintable character then
        readLines quote fuel (character :: read) rest
      else .error (character :: rest)

/-- The text without a line end in front. -/
def dropLineEnd : Text → Text
  | '\n' :: rest => rest
  | '\r' :: '\n' :: rest => rest
  | text => text

/-- Reads a string of either form; the text begins with its quote. -/
def readQuoted (quote : Char) (text : Text) : Except Text (String × Text) :=
  match takeQuotes quote text with
  | (1, rest) => readLine quote (rest.length + 1) [] rest
  | (2, rest) => .ok ("", rest)
  | (_, _) =>
      let rest := dropLineEnd (text.drop 3)
      readLines quote (rest.length + 1) [] rest

/-- Reads a string on one line; the text begins with its quote. -/
def readQuotedKey (quote : Char) (text : Text) : Except Text (String × Text) :=
  match takeQuotes quote text with
  | (1, rest) => readLine quote (rest.length + 1) [] rest
  | (2, rest) => .ok ("", rest)
  | _ => .error text

end QueryLint.Toml
