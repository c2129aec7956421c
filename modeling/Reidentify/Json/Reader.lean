import Reidentify.Text.Integer
import Reidentify.Text.Unpaired
import Reidentify.Value.Basic

/-!
# Reading JSON

A JSON text is read from left to right; the first place where it goes wrong decides the
complaint. Besides the standard's texts the names of the infinities and of the value that is no
number are read. Of several members with one key the first keeps its place and the last its
value. Nesting is limited.
-/

namespace Reidentify.Json

/-- What is wrong with a text at the place where reading it stops. `Problem.message` is the
complaint about it. -/
inductive Problem where
  /-- A value should start here. -/
  | value
  /-- The name of a member should start here. -/
  | memberName
  /-- A colon should stand here. -/
  | colon
  /-- A comma or the closing bracket should stand here. -/
  | comma
  /-- The text that starts here has no end. -/
  | unterminatedText
  /-- A control character stands inside a text. -/
  | controlCharacter
  /-- A backslash is followed by a letter that names no escape. -/
  | escape
  /-- The four hexadecimal digits of an escape are not complete. -/
  | unitEscape
  /-- Something follows the value. -/
  | extraData
  /-- The text starts with a byte order mark. -/
  | byteOrderMark
  deriving DecidableEq, Repr

/-- The complaint about a `Problem` in a text, without the place that it is found at. -/
def Problem.message : Problem → String
  | .value => "Expecting value"
  | .memberName => "Expecting property name enclosed in double quotes"
  | .colon => "Expecting ':' delimiter"
  | .comma => "Expecting ',' delimiter"
  | .unterminatedText => "Unterminated string starting at"
  | .controlCharacter => "Invalid control character at"
  | .escape => "Invalid \\escape"
  | .unitEscape => "Invalid \\uXXXX escape"
  | .extraData => "Extra data"
  | .byteOrderMark => "Unexpected UTF-8 BOM (decode using utf-8-sig)"

/-- Why a text cannot be read as a JSON value: it is malformed, or it is too deep or too long for
the reader. -/
inductive Fault where
  /-- The text is not JSON: there is a `problem` at `offset`, which counts characters. -/
  | malformed (problem : Problem) (offset : Nat)
  /-- The brackets are nested more deeply than `nestingLimit`. -/
  | tooDeep
  /-- An integer has this many digits, more than `Text.digitLimit`. -/
  | integerTooLong (digits : Nat)
  deriving DecidableEq, Repr

/-- How deeply brackets may be nested: the `depth` that `readValue` begins with. -/
def nestingLimit : Nat := 990

/-- A place in a text: what is left of it, and how many characters precede it. -/
structure Cursor where
  /-- The rest of the text. -/
  rest : List Char
  /-- The number of characters before `rest`. -/
  offset : Nat
  deriving DecidableEq, Repr

/-- Whether `c` may stand between the parts of a JSON text. There are four such characters. -/
def isSpace (c : Char) : Bool :=
  c == ' ' || c == '\t' || c == '\n' || c == '\r'

/-- Passes over the spaces (`isSpace`) at the front of some characters, counting them from `offset`
on. -/
def skipSpaces : List Char → Nat → Cursor
  | [], offset => ⟨[], offset⟩
  | c :: rest, offset =>
    if isSpace c then skipSpaces rest (offset + 1) else ⟨c :: rest, offset⟩

/-- The place after the spaces that a place begins with (`skipSpaces`). -/
def Cursor.skip (cursor : Cursor) : Cursor :=
  skipSpaces cursor.rest cursor.offset

/-- The number of the four hexadecimal digits at the front of some characters, and the characters
behind them. -/
def fourHex? : List Char → Option (Nat × List Char)
  | a :: b :: c :: d :: rest => do
    let a ← Text.hexValue? a
    let b ← Text.hexValue? b
    let c ← Text.hexValue? c
    let d ← Text.hexValue? d
    return (((a * 16 + b) * 16 + c) * 16 + d, rest)
  | _ => none

/-- Whether there is a character behind the first four, such as the quote that ends a text. -/
def goesBeyondFour : List Char → Bool
  | _ :: _ :: _ :: _ :: _ :: _ => true
  | _ => false

/-- The character of an escape of one letter, without `u`, which four digits follow. -/
def letterEscape? : Char → Option Char
  | '"' => some '"'
  | '\\' => some '\\'
  | '/' => some '/'
  | 'b' => some '\x08'
  | 'f' => some '\x0c'
  | 'n' => some '\n'
  | 'r' => some '\r'
  | 't' => some '\t'
  | _ => none

/-- The character of a single sixteen-bit `unit`: half a pair is kept as `Text.unpaired unit`. -/
def unitChar (unit : Nat) : Char :=
  if Text.isHalf unit then Text.unpaired unit else Char.ofNat unit

/-- The character of an escaped `unit` and what follows it. A high unit that is followed by an
escaped low one makes a pair with it. `offset` is the place of what follows, `rest`. -/
def pairedChar (unit : Nat) (rest : List Char) (offset : Nat) :
    Except Fault (Char × List Char × Nat) :=
  match rest with
  | '\\' :: 'u' :: more =>
    if 0xD800 ≤ unit && unit < 0xDC00 && goesBeyondFour more then
      match fourHex? more with
      | none => .error (.malformed .unitEscape (offset + 1))
      | some (low, after) =>
        if 0xDC00 ≤ low && low < 0xE000 then
          .ok (Char.ofNat (0x10000 + (unit - 0xD800) * 0x400 + (low - 0xDC00)), after, offset + 6)
        else .ok (unitChar unit, rest, offset)
    else .ok (unitChar unit, rest, offset)
  | _ => .ok (unitChar unit, rest, offset)

/-- Reads the rest of a text behind its opening quote, which stands at `start`. The characters
read so far are kept in reverse. The fuel bounds the number of steps. -/
def readText : Nat → Nat → List Char → List Char → Nat → Except Fault (String × Cursor)
  | 0, start, _, _, _ => .error (.malformed .unterminatedText start)
  | _ + 1, start, _, [], _ => .error (.malformed .unterminatedText start)
  | fuel + 1, start, seen, c :: rest, offset =>
    if c = '"' then .ok (String.ofList seen.reverse, ⟨rest, offset + 1⟩)
    else if c = '\\' then
      match rest with
      | [] => .error (.malformed .unterminatedText start)
      | 'u' :: more =>
        -- the digits count only if something follows them, as the quote at the end of every text
        -- does
        if !goesBeyondFour more then .error (.malformed .unitEscape (offset + 1))
        else
          match fourHex? more with
          | none => .error (.malformed .unitEscape (offset + 1))
          | some (unit, after) =>
            match pairedChar unit after (offset + 6) with
            | .error fault => .error fault
            | .ok (char, left, place) => readText fuel start (char :: seen) left place
      | letter :: more =>
        match letterEscape? letter with
        | none => .error (.malformed .escape offset)
        | some char => readText fuel start (char :: seen) more (offset + 2)
    else if c.toNat < 0x20 then .error (.malformed .controlCharacter offset)
    else readText fuel start (c :: seen) rest (offset + 1)

/-- Whether `c` is a decimal digit of ASCII; those of other scripts do not count in JSON. -/
def isDigit (c : Char) : Bool :=
  '0' ≤ c && c ≤ '9'

/-- The digits (`isDigit`) at the front of some characters and what follows them. -/
def spanDigits : List Char → List Char × List Char
  | [] => ([], [])
  | c :: rest =>
    if isDigit c then
      let (digits, after) := spanDigits rest
      (c :: digits, after)
    else ([], c :: rest)

/-- The number that the ASCII `digits` stand for, by `Text.ofDigits`. -/
def digitsValue (digits : List Char) : Nat :=
  Text.ofDigits (digits.map fun c => c.toNat - 48)

/-- The digits of the fraction at the front of some characters, a point and at least one digit, and
what follows it. A point without a digit is left where it is. -/
def fractionPart : List Char → List Char × List Char
  | '.' :: rest =>
    match spanDigits rest with
    | ([], _) => ([], '.' :: rest)
    | (digits, after) => (digits, after)
  | chars => ([], chars)

/-- The exponent at the front of some characters, if a complete one stands there, with the number
of its characters and what follows it. -/
def exponentPart? : List Char → Option (Int × Nat × List Char)
  | c :: rest =>
    if c = 'e' || c = 'E' then
      let (negative, body) := Text.splitSign rest
      match spanDigits body with
      | ([], _) => none
      | (digits, after) =>
        let size := digitsValue digits
        let sign := rest.head?.any fun c => c == '+' || c == '-'
        some (if negative then -(size : Int) else size,
          (if sign then 2 else 1) + digits.length, after)
    else none
  | [] => none

/-- Reads a number at `cursor`: an integer, or a floating-point number if a fraction or an exponent
is there. An integer may have at most `Text.digitLimit` digits. -/
def readNumber (cursor : Cursor) : Except Fault (Value × Cursor) :=
  let (negative, body) :=
    match cursor.rest with
    | '-' :: rest => (true, rest)
    | chars => (false, chars)
  let (whole, afterWhole) :=
    match body with
    | '0' :: rest => (['0'], rest)
    | chars => spanDigits chars
  if whole.isEmpty then .error (.malformed .value cursor.offset)
  else
    let (fraction, afterFraction) := fractionPart afterWhole
    let (exponent, taken, rest) :=
      match exponentPart? afterFraction with
      | some (power, size, after) => (some power, size, after)
      | none => (none, 0, afterFraction)
    let place := cursor.offset + (if negative then 1 else 0) + whole.length
      + (if fraction.isEmpty then 0 else 1 + fraction.length) + taken
    if fraction.isEmpty && exponent.isNone then
      -- a number with a fraction or an exponent may have any number of digits
      if Text.digitLimit < whole.length then .error (.integerTooLong whole.length)
      else
        let size := digitsValue whole
        .ok (.int (if negative then -(size : Int) else size), ⟨rest, place⟩)
    else
      let digits := digitsValue (whole ++ fraction)
      let power := exponent.getD 0 - fraction.length
      .ok (.float (Binary64.ofDecimal negative digits power), ⟨rest, place⟩)

/-- The words that stand for values, with these values: `true`, `null` and the like. -/
def words : List (List Char × Value) :=
  [("null".toList, .null), ("true".toList, .bool true), ("false".toList, .bool false),
   ("NaN".toList, .float Binary64.notANumber),
   ("Infinity".toList, .float (Binary64.infinity false)),
   ("-Infinity".toList, .float (Binary64.infinity true))]

/-- Reads a value at `cursor` that is no text, list or object: one of `words` or a number. -/
def readScalar (cursor : Cursor) : Except Fault (Value × Cursor) :=
  match words.find? fun word => word.1.isPrefixOf cursor.rest with
  | some (word, value) =>
    .ok (value, ⟨cursor.rest.drop word.length, cursor.offset + word.length⟩)
  | none => readNumber cursor

mutual

/-- Reads a value at a place. The first argument bounds the number of steps, and `depth` is the
number of levels that are left for brackets. -/
def readValue : Nat → Nat → Cursor → Except Fault (Value × Cursor)
  | 0, _, cursor => .error (.malformed .value cursor.offset)
  | fuel + 1, depth, cursor =>
    match cursor.rest with
    | '"' :: rest =>
      match readText fuel cursor.offset [] rest (cursor.offset + 1) with
      | .ok (text, after) => .ok (.str text, after)
      | .error fault => .error fault
    | '[' :: rest =>
      if depth = 0 then .error .tooDeep
      else
        let inside := skipSpaces rest (cursor.offset + 1)
        match inside.rest with
        | ']' :: after => .ok (.list [], ⟨after, inside.offset + 1⟩)
        | _ => readItems fuel (depth - 1) [] inside
    | '{' :: rest =>
      if depth = 0 then .error .tooDeep
      else
        let inside := skipSpaces rest (cursor.offset + 1)
        match inside.rest with
        | '}' :: after => .ok (.obj [], ⟨after, inside.offset + 1⟩)
        | _ => readMembers fuel (depth - 1) [] inside
    | _ => readScalar cursor

/-- Reads the items of a list up to its closing bracket; the items `seen` so far are kept in
reverse. The fuel bounds the number of steps. -/
def readItems : Nat → Nat → List Value → Cursor → Except Fault (Value × Cursor)
  | 0, _, _, cursor => .error (.malformed .value cursor.offset)
  | fuel + 1, depth, seen, cursor =>
    match readValue fuel depth cursor with
    | .error fault => .error fault
    | .ok (item, after) =>
      let next := after.skip
      match next.rest with
      | ']' :: rest => .ok (.list (item :: seen).reverse, ⟨rest, next.offset + 1⟩)
      | ',' :: rest => readItems fuel depth (item :: seen) (skipSpaces rest (next.offset + 1))
      | _ => .error (.malformed .comma next.offset)

/-- Reads the members of an object up to its closing brace, where those `seen` so far are kept in
order and `Value.setMember` replaces the value of a repeated key. -/
def readMembers : Nat → Nat → List (String × Value) → Cursor → Except Fault (Value × Cursor)
  | 0, _, _, cursor => .error (.malformed .value cursor.offset)
  | fuel + 1, depth, seen, cursor =>
    match cursor.rest with
    | '"' :: rest =>
      match readText fuel cursor.offset [] rest (cursor.offset + 1) with
      | .error fault => .error fault
      | .ok (key, afterKey) =>
        let colon := afterKey.skip
        match colon.rest with
        | ':' :: rest =>
          match readValue fuel depth (skipSpaces rest (colon.offset + 1)) with
          | .error fault => .error fault
          | .ok (value, afterValue) =>
            let members := Value.setMember key value seen
            let next := afterValue.skip
            match next.rest with
            | '}' :: rest => .ok (.obj members, ⟨rest, next.offset + 1⟩)
            | ',' :: rest => readMembers fuel depth members (skipSpaces rest (next.offset + 1))
            | _ => .error (.malformed .comma next.offset)
        | _ => .error (.malformed .colon colon.offset)
    | _ => .error (.malformed .memberName cursor.offset)

end

/-- Reads `chars` as one value: nothing but spaces may stand around it. The fuel is more than the
number of steps that any such text takes. -/
def readChars (chars : List Char) : Except Fault Value :=
  match chars with
  | '\ufeff' :: _ => .error (.malformed .byteOrderMark 0)
  | _ =>
    match readValue (2 * chars.length + 2) nestingLimit (skipSpaces chars 0) with
    | .error fault => .error fault
    | .ok (value, after) =>
      let final := after.skip
      if final.rest.isEmpty then .ok value else .error (.malformed .extraData final.offset)

/-- Reads the characters of `text` as one value (`readChars`). -/
def read (text : String) : Except Fault Value :=
  readChars text.toList

/-- The line of the place `offset` in `text` and the column in that line, both counted from one. -/
def lineColumn (text : String) (offset : Nat) : Nat × Nat :=
  let before := text.toList.take offset
  let line := before.count '\n' + 1
  (line, (before.reverse.takeWhile (· ≠ '\n')).length + 1)

/-- The complaint about a `problem` at `offset` in `text`, with line, column and offset. -/
def complaint (text : String) (problem : Problem) (offset : Nat) : String :=
  let (line, column) := lineColumn text offset
  s!"{problem.message}: line {line} column {column} (char {offset})"

end Reidentify.Json
