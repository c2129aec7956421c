/-!
# Blank characters

The characters that count as blank at the ends of a text: the white space of the Unicode
standard together with the four information separators. The set is wider than the ASCII
blanks that `Char.isWhitespace` knows.
-/

namespace Reidentify.Text

/-- The ranges `(first, last)` of code points that count as blank, both ends included, in ascending
order. -/
def blankRanges : List (Nat × Nat) :=
  [(0x09, 0x0D), (0x1C, 0x20), (0x85, 0x85), (0xA0, 0xA0), (0x1680, 0x1680),
   (0x2000, 0x200A), (0x2028, 0x2029), (0x202F, 0x202F), (0x205F, 0x205F), (0x3000, 0x3000)]

/-- Whether the character `c` is blank: its code point lies in one of `blankRanges`. -/
def isBlank (c : Char) : Bool :=
  blankRanges.any fun range => range.1 ≤ c.toNat && c.toNat ≤ range.2

/-- Whether `c` is one of the four information separators, U+001C to U+001F. They are blank
(`isBlank`), but not at the ends of an integer. -/
def isSeparator (c : Char) : Bool :=
  0x1C ≤ c.toNat && c.toNat ≤ 0x1F

/-- The list `chars` without the longest beginning and the longest end all characters of which pass
`test`. -/
def trimWhile (test : Char → Bool) (chars : List Char) : List Char :=
  ((chars.dropWhile test).reverse.dropWhile test).reverse

/-- The characters of `text` without the blanks at both ends, those inside being kept:
`trimWhile isBlank`. -/
def trim (text : String) : String :=
  String.ofList (trimWhile isBlank text.toList)

end Reidentify.Text
