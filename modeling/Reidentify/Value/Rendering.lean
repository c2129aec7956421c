import Reidentify.Number.Decimal
import Reidentify.Text.Quoted
import Reidentify.Value.Basic

/-!
# Rendered values

How a value is shown inside a message or a description. A rendered value names the absent value
`None` and the truth values `True` and `False`, quotes texts, and writes lists and objects in
brackets and braces. The plain form `plain` differs from `rendered` for a text only, which it writes
without quotes.

Both are total. Two things would stand in the way of showing a value: an integer of more than
`Text.digitLimit` digits, and lists and objects that are nested more deeply than can be followed.
No value of a document has either of them, because the reader of documents refuses such integers
with `tooManyDigits` and such depths with `tooDeep` before there is a value, and the variables and
options of a command are read with the same limit. Only a number that a caller computes can get
longer. Where a sentence names such a number, the index of a position or the number of workers, it
is guarded by `Whole.naming`. A number that a predicate compares with is written when the predicate
is made, so there are no predicates with longer ones.
-/

namespace Reidentify.Value

/-- Where a number in a message is written positionally: from a ten-thousandth to below ten to the
sixteenth. Any other one has an exponent. -/
def numberLayout : NumberLayout :=
  ⟨-4, 16, false, "inf", "-inf", "nan"⟩

/-- The text of the floating-point number `x` inside a message: its shortest decimal form in
`numberLayout`. -/
def numberText (x : Binary64) : String :=
  numberLayout.render Decimal.shortest x

/-- The name of `truth` inside a message, with a capital letter. -/
def truthText (truth : Bool) : String :=
  if truth then "True" else "False"

mutual

/-- A value as it is shown inside a message: texts quoted (`Text.quoted`), and the parts of a list
or an object shown in the same way. -/
def rendered : Value → String
  | .null => "None"
  | .bool truth => truthText truth
  | .int number => toString number
  | .float number => numberText number
  | .str text => Text.quoted text
  | .list items => "[" ++ renderedItems items ++ "]"
  | .obj members => "\x7b" ++ renderedMembers members ++ "\x7d"

/-- The items of a list as they are shown by `rendered`, with a comma and a space between two of
them. -/
def renderedItems : List Value → String
  | [] => ""
  | [item] => rendered item
  | item :: rest => rendered item ++ ", " ++ renderedItems rest

/-- The members of an object, each as its quoted key, a colon and its `rendered` value, with commas
between them. -/
def renderedMembers : List (String × Value) → String
  | [] => ""
  | [(key, value)] => Text.quoted key ++ ": " ++ rendered value
  | (key, value) :: rest =>
    Text.quoted key ++ ": " ++ rendered value ++ ", " ++ renderedMembers rest

end

/-- A value as plain text: a text as it is, everything else as in `rendered`. -/
def plain : Value → String
  | .str text => text
  | value => rendered value

end Reidentify.Value
