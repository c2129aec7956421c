import Reidentify.Text.Printable
import Reidentify.Text.Unpaired

/-!
# Quoted text

A text inside a message or a rendered value stands between quotes. Single quotes are taken,
unless the text holds a single quote and no double quote. The quote in use, the backslash and
the three common line controls are escaped by a letter, any other character without a glyph by
its number, and everything else is written as it is.
-/

namespace Reidentify.Text

/-- The digits of `n` in base sixteen, with small letters from ten on. -/
def hexDigits (n : Nat) : List Char :=
  Nat.toDigits 16 n

/-- The `hexDigits` of `n`, with as many zeros in front as it takes to make them `width` characters.
-/
def hexPadded (width n : Nat) : List Char :=
  let digits := hexDigits n
  List.replicate (width - digits.length) '0' ++ digits

/-- The numeric escape of `c`, its `codePoint` in base sixteen: two digits after `\x`, four after
`\u` or eight after `\U`, as few of these as hold it. -/
def numericEscape (c : Char) : List Char :=
  let number := codePoint c
  if number < 0x100 then '\\' :: 'x' :: hexPadded 2 number
  else if number < 0x10000 then '\\' :: 'u' :: hexPadded 4 number
  else '\\' :: 'U' :: hexPadded 8 number

/-- The written form of `c` between two characters `quote`: the quote and the backslash behind a
backslash, the common line controls by a letter, a character without a glyph by its `numericEscape`.
-/
def quotedChar (quote c : Char) : List Char :=
  if c = quote || c = '\\' then ['\\', c]
  else if c = '\n' then ['\\', 'n']
  else if c = '\r' then ['\\', 'r']
  else if c = '\t' then ['\\', 't']
  else if isPrintable c then [c]
  else numericEscape c

/-- The quote that a text is written with: a single one, unless `chars` holds a single quote and no
double one. -/
def quoteFor (chars : List Char) : Char :=
  if chars.contains '\'' && !chars.contains '"' then '"' else '\''

/-- The characters of `text` between quotes (`quoteFor`), each in the form of `quotedChar`. -/
def quoted (text : String) : String :=
  let chars := text.toList
  let quote := quoteFor chars
  String.ofList (quote :: chars.flatMap (quotedChar quote) ++ [quote])

end Reidentify.Text
