/-!
# Text in columns

Fixed-width columns of a listing: a text that is shorter than its column is filled up with
spaces, a longer one is left as it is.
-/

namespace Reidentify.Text

/-- The cell of a column of `width` characters with `text` at its left: spaces follow `text`, none
if it is as wide as the column. -/
def padRight (width : Nat) (text : String) : String :=
  text ++ String.ofList (List.replicate (width - text.length) ' ')

/-- The cell of a column of `width` characters with `text` at its right: spaces stand before `text`,
none if it is as wide as the column. -/
def padLeft (width : Nat) (text : String) : String :=
  String.ofList (List.replicate (width - text.length) ' ') ++ text

/-- The decimal digits of `n`, with as many zeros in front as it takes to make them `width`
characters. -/
def zeroPadded (width n : Nat) : String :=
  let digits := toString n
  String.ofList (List.replicate (width - digits.length) '0') ++ digits

end Reidentify.Text
