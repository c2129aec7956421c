import Reidentify.Text.Blank
import Reidentify.Text.Digit

/-!
# Integers written as text

The decimal integers that a document, an option or a setting may hold: blanks at both ends, one
sign, digits of any script, and single underscores between digits. Texts with more than
`digitLimit` digits are refused rather than read, and `canWrite` says which integers have so few
digits that they are written.
-/

namespace Reidentify.Text

/-- The most digits of an integer that is read (`readInteger`) or written (`canWrite`). -/
def digitLimit : Nat := 4300

/-- The smallest number with more than `digitLimit` digits. -/
def firstUnwritable : Nat := Nat.pow 10 digitLimit

/-- Whether the integer `n` is written. One with more than `digitLimit` digits is refused, as
`readInteger` refuses its text. -/
@[irreducible]
def canWrite (n : Int) : Bool :=
  n.natAbs < firstUnwritable

/-- `canWrite n` says that `n` is nearer to zero than `firstUnwritable`. -/
theorem canWrite_iff {n : Int} : canWrite n = true ↔ n.natAbs < firstUnwritable := by
  unfold canWrite
  exact decide_eq_true_iff

/-- An integer `m` that is not farther from zero than a number `n` that is written is written as
well. -/
theorem canWrite_of_natAbs_le {m n : Int} (h : m.natAbs ≤ n.natAbs) (hn : canWrite n = true) :
    canWrite m = true :=
  canWrite_iff.2 (Nat.lt_of_le_of_lt h (canWrite_iff.1 hn))

/-- What `readInteger` finds in a text: an integer, no integer, or one that is too long to be read.
-/
inductive IntegerReading where
  /-- The text is the decimal form of `value`. -/
  | integer (value : Int)
  /-- The text is not the decimal form of an integer. -/
  | malformed
  /-- The text is the decimal form of an integer with this many digits, more than `digitLimit`. -/
  | tooLong (digits : Nat)
  deriving DecidableEq, Repr

/-- The digit values of a sequence of digits in which single underscores may stand between two
digits, or `none` for any other sequence. The flag `afterDigit` says whether the character before
was a digit, which an underscore and the end both need. -/
def digitRun (afterDigit : Bool) : List Char → Option (List Nat)
  | [] => if afterDigit then some [] else none
  | '_' :: rest => if afterDigit then digitRun false rest else none
  | c :: rest => do
    let digit ← digitValue? c
    let others ← digitRun true rest
    return digit :: others

/-- The number that the decimal `digits` stand for, the most significant one being the first. -/
def ofDigits (digits : List Nat) : Nat :=
  digits.foldl (fun value digit => 10 * value + digit) 0

/-- Whether a number is negative, and what follows its sign; a number without a sign is positive. -/
def splitSign : List Char → Bool × List Char
  | '-' :: rest => (true, rest)
  | '+' :: rest => (false, rest)
  | chars => (false, chars)

/-- Whether `c` may stand at both ends of an integer: it `isBlank`, but is no information separator
(`isSeparator`). -/
def isBlankOfInteger (c : Char) : Bool :=
  isBlank c && !isSeparator c

/-- Reads `text` as an integer: blanks at both ends are dropped, a sign may come first, and the rest
is a `digitRun` of at most `digitLimit` digits. -/
def readInteger (text : String) : IntegerReading :=
  let (negative, body) := splitSign (trimWhile isBlankOfInteger text.toList)
  match digitRun false body with
  | none => .malformed
  -- the limit counts the digits that are written, leading zeros included
  | some digits =>
    if digits.length > digitLimit then .tooLong digits.length
    else .integer (if negative then -(ofDigits digits : Int) else ofDigits digits)

end Reidentify.Text
