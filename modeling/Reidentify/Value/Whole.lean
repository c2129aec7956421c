import Reidentify.Text.Integer
import Reidentify.Value.Rendering

/-!
# Whole numbers as they are written

A document may write the numbers one and zero as truth values. Such a number counts like any other
one (`Whole.value`), but it is shown the way it was written (`Whole.text`). A number that is
calculated, and not read, may have more than `Text.digitLimit` digits. It has no text then, which is
what `Whole.isWritable` says, and a sentence that names it is a fault.
-/

namespace Reidentify

/-- A whole number as its document writes it. Two forms of one `value` differ in their `text` only.
-/
inductive Whole where
  /-- An integer, written with its digits. -/
  | number (value : Int)
  /-- One or zero, written as the truth value `truth`. -/
  | flag (truth : Bool)
  deriving DecidableEq, Repr

namespace Whole

instance : Coe Int Whole := ⟨number⟩

instance (n : Nat) : OfNat Whole n := ⟨number n⟩

/-- The number that is written: a truth value counts as `1` or `0`. -/
def value : Whole → Int
  | .number value => value
  | .flag truth => if truth then 1 else 0

/-- The value that writes a whole number, an integer or a truth value, as it was given. -/
def toValue : Whole → Value
  | .number value => .int value
  | .flag truth => .bool truth

/-- The plain text of a number, if it `isWritable`: the digits of an integer, the name of a truth
value. -/
def text (whole : Whole) : String := whole.toValue.plain

/-- Whether a number has a text: it has at most `Text.digitLimit` digits (`Text.canWrite`). -/
def isWritable (whole : Whole) : Bool := Text.canWrite whole.value

@[simp] theorem value_number (n : Int) : (number n).value = n := rfl

end Whole

/-- The numbers of a `Quantity` that may have no text, which is an integer itself. A floating-point
number always has one. -/
def Value.Quantity.wholes : Quantity → List Whole
  | .whole number => [.number number]
  | .real _ => []

end Reidentify
