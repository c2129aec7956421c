/-!
# Search patterns

A pattern is compared with a whole text. A percent sign stands for any characters, an underscore
for one character, and every other character for itself; letters of ASCII are the same in
either case. There is no way to mean one of the two signs literally. The character zero ends
both the pattern and the text.
-/

namespace Reidentify.Pattern

/-- The character `c` in lower case if it is a letter of ASCII; every other character as it is. -/
def foldCase (c : Char) : Char :=
  if 'A' ≤ c && c ≤ 'Z' then Char.ofNat (c.toNat + 32) else c

/-- The ends of a list, from the whole list to the empty one, the longest first. -/
def suffixes : List Char → List (List Char)
  | [] => [[]]
  | c :: rest => (c :: rest) :: suffixes rest

/-- The end of a text that is left behind one character that `sign` stands for. An underscore stands
for any character, every other sign for itself in either case. -/
def behind? (sign : Char) : List Char → Option (List Char)
  | [] => none
  | c :: rest => if sign == '_' || foldCase sign == foldCase c then some rest else none

/-- The ends of a text that may be left behind `sign`, if it starts at one of `ends`, the longest
first. A percent sign that starts at the longest one leaves all that it leaves anywhere. -/
def leftBy (ends : List (List Char)) (sign : Char) : List (List Char) :=
  if sign = '%' then
    match ends with
    | [] => []
    | longest :: _ => suffixes longest
  else ends.filterMap (behind? sign)

/-- Whether `pattern` fits all the characters of `text`: the signs are followed from left to right,
and the empty end is left at last. -/
def fits (pattern text : List Char) : Bool :=
  (pattern.foldl leftBy [text]).any List.isEmpty

/-- The pattern of the texts that contain `part`, as long as no sign of `part` is a wildcard. -/
def containing (part : String) : String :=
  "%" ++ part ++ "%"

/-- The characters of a text or a pattern that are compared: those before the first character zero.
-/
def compared (chars : List Char) : List Char :=
  chars.takeWhile (· != '\x00')

/-- Whether `text` fits `pattern`, both of them up to their first character zero (`compared`). -/
def fitsText (pattern text : String) : Bool :=
  fits (compared pattern.toList) (compared text.toList)

/-- The most bytes of a pattern that is compared with anything (`isTooLong`). -/
def sizeLimit : Nat := 50000

/-- Whether `pattern` has more bytes than `sizeLimit`, in UTF-8. -/
def isTooLong (pattern : String) : Bool :=
  sizeLimit < pattern.utf8ByteSize

end Reidentify.Pattern
