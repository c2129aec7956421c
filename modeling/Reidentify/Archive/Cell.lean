import Reidentify.Archive.Numeral
import Reidentify.Fault

/-!
# Cells

A column of the archive holds texts or integers, but takes any scalar value and converts it
first: a column of texts makes texts of numbers, and a column of integers makes numbers of texts
that write one and integers of numbers without a fraction. What cannot be converted is kept as it
is. Integers have sixty-four bits.
-/

namespace Reidentify

/-- The content of a cell of the store, after its column has taken a value (`Cell.ofValue`) and
converted it. -/
inductive Cell where
  /-- Nothing, which a column with a required value refuses. -/
  | empty
  /-- An integer, of at most sixty-four bits (`Cell.fitsInteger`). -/
  | integer (value : Int)
  /-- A floating-point number. -/
  | real (value : Binary64)
  /-- A text. -/
  | text (value : String)
  deriving DecidableEq

namespace Cell

/-- Whether `n` has at most sixty-four bits with its sign, so that a column can hold it. -/
def fitsInteger (n : Int) : Bool :=
  -9223372036854775808 ≤ n && n < 9223372036854775808

/-- The text itself, unless it has unpaired code units (`Text.isUnpaired`), which make it a fault.
-/
def encodable (text : String) : Except Fault String :=
  match Text.firstUnpaired? (fun _ => true) 0 text.toList with
  | some (position, units) => .error (.unencodable position units)
  | none => .ok text

theorem eq_of_encodable {text found : String} (h : encodable text = .ok found) : text = found := by
  unfold encodable at h
  split at h
  · cases h
  · exact Except.ok.inj h

/-- The test `encodable` lets `text` pass iff none of its characters stands for half a pair. -/
theorem encodable_eq_ok_iff {text : String} :
    encodable text = .ok text ↔ ∀ c ∈ text.toList, Text.isUnpaired c = false := by
  have hnone : Text.firstUnpaired? (fun _ => true) 0 text.toList = none ↔ _ :=
    Text.firstUnpaired?_eq_none_iff
  unfold encodable
  split
  · next hfound => simpa [hfound] using hnone
  · next hfound => simpa [hfound] using hnone

/-- The cell of a value that is the `parameter` of a request at this place. The value that is no
number leaves the cell empty; lists and objects have no cell. -/
def ofValue (parameter : Nat) : Value → Except Fault Cell
  | .null => .ok .empty
  | .bool truth => .ok (.integer (if truth then 1 else 0))
  | .int number => if fitsInteger number then .ok (.integer number) else .error (.overflow .column)
  | .float number => .ok (if number.isNotANumber then .empty else .real number)
  | .str value => (encodable value).map .text
  | .list _ => .error (.store (.unsupported parameter "list"))
  | .obj _ => .error (.store (.unsupported parameter "dict"))

/-- The value of a cell, the other way round of `ofValue` for cells that fit. -/
def toValue : Cell → Value
  | .empty => .null
  | .integer value => .int value
  | .real value => .float value
  | .text value => .str value

/-- Numbers that a column of texts converts have fifteen digits at most and always a point. -/
def numberLayout : NumberLayout :=
  ⟨-4, 15, true, "Inf", "-Inf", "NaN"⟩

/-- The text of the floating-point number `x` in a column of texts. Zero has no sign. -/
def numberText (x : Binary64) : String :=
  numberLayout.render Numeral.decimalOf (if x.isZero then Binary64.zero false else x)

/-- The text of a cell in a column of texts, and `none` if the cell is empty. -/
def asText? : Cell → Option String
  | .empty => none
  | .integer value => some (toString value)
  | .real value => some (numberText value)
  | .text value => some value

/-- The integer `x.truncate` if `x` has no fraction and lies strictly inside the range of a column,
and the number `x` itself otherwise. -/
def ofReal (x : Binary64) : Cell :=
  if x.isIntegral && -9223372036854775808 < x.truncate && x.truncate < 9223372036854775807 then
    .integer x.truncate
  else .real x

/-- Whether `c` is a blank that may stand around a number in a text. -/
def isBlank (c : Char) : Bool :=
  c == ' ' || (0x09 ≤ c.toNat && c.toNat ≤ 0x0D)

/-- The digits (`Json.isDigit`) at the front of `chars`, and what follows them. -/
def spanDigits (chars : List Char) : List Char × List Char :=
  (chars.takeWhile Json.isDigit, chars.dropWhile Json.isDigit)

/-- The exponent at the end of a number, with nothing behind it; no exponent at all is zero. -/
def exponent? : List Char → Option Int
  | [] => some 0
  | e :: rest =>
    let (negative, body) := Text.splitSign rest
    let (digits, behind) := spanDigits body
    if (e == 'e' || e == 'E') && !digits.isEmpty && behind.isEmpty then
      let size := Numeral.exponentOf digits
      some (if negative then -(size : Int) else size)
    else none

/-- The number that `text` writes: an optional sign, digits with or without a point, and an optional
exponent, with blanks around it. A number of digits only is an integer if it `fitsInteger`. -/
def readNumber? (text : String) : Option Cell :=
  let chars := Text.trimWhile isBlank text.toList
  let (negative, body) := Text.splitSign chars
  let (whole, behind) := spanDigits body
  let (fraction, rest) :=
    match behind with
    | '.' :: more => spanDigits more
    | more => ([], more)
  if whole.isEmpty && fraction.isEmpty then none
  else
    match exponent? rest with
    | none => none
    | some power =>
      let size : Int := Json.digitsValue whole
      let number := if negative then -size else size
      if behind.isEmpty && fitsInteger number then some (.integer number)
      else some (ofReal (Numeral.ofParts negative whole fraction power).toBinary64)

/-- The content of a cell in a column of integers: texts that write a number become it, and numbers
without a fraction become integers. -/
def asInteger : Cell → Cell
  | .empty => .empty
  | .integer value => .integer value
  | .real value => ofReal value
  | .text value => (readNumber? value).getD (.text value)

end Cell

end Reidentify
