import Reidentify.Number.Decimal
import Reidentify.Text.Quoted
import Reidentify.Value.Basic

/-!
# Writing JSON

A value as JSON text, either on one line or with one item per line and an indentation per level.
Characters outside ASCII are kept or escaped as the document asks.
-/

namespace Reidentify.Json

/-- How a JSON text is laid out: on one line or on several, and with or without characters outside
ASCII. -/
structure Layout where
  /-- The number of spaces per level, or `none` for a text on one line. -/
  indent : Option Nat
  /-- Whether everything outside ASCII is escaped (`unitEscape`). -/
  asciiOnly : Bool
  deriving DecidableEq, Repr

/-- Numbers are laid out as inside messages (`Value.numberLayout`), but infinities are spelled out.
-/
def numberLayout : NumberLayout :=
  ⟨-4, 16, false, "Infinity", "-Infinity", "NaN"⟩

/-- The escape of `c` by the numbers of its sixteen-bit units: one unit, or a pair of them above
0xFFFF. -/
def unitEscape (c : Char) : List Char :=
  let escape (unit : Nat) : List Char := '\\' :: 'u' :: Text.hexPadded 4 unit
  if Text.codePoint c < 0x10000 then escape (Text.codePoint c)
  else
    let above := c.toNat - 0x10000
    escape (0xD800 + above / 0x400) ++ escape (0xDC00 + above % 0x400)

/-- The written form of `c` inside a JSON text: as it is, by a letter, or by `unitEscape` for
controls and, if `asciiOnly`, everything above 0x7E. -/
def writtenChar (asciiOnly : Bool) (c : Char) : List Char :=
  if c = '"' then ['\\', '"']
  else if c = '\\' then ['\\', '\\']
  else if c = '\n' then ['\\', 'n']
  else if c = '\r' then ['\\', 'r']
  else if c = '\t' then ['\\', 't']
  else if c = '\x0c' then ['\\', 'f']
  else if c = '\x08' then ['\\', 'b']
  else if c.toNat < 0x20 then unitEscape c
  else if asciiOnly && 0x7E < c.toNat then unitEscape c
  else [c]

/-- The characters of `text`, each by `writtenChar`, between double quotes. -/
def writtenText (asciiOnly : Bool) (text : String) : String :=
  String.ofList ('"' :: text.toList.flatMap (writtenChar asciiOnly) ++ ['"'])

/-- What separates items: a comma, then a space or the start of a line at `level`. -/
def itemSeparator (layout : Layout) (level : Nat) : String :=
  match layout.indent with
  | none => ", "
  | some width => ",\n" ++ String.ofList (List.replicate (width * level) ' ')

/-- The start of a line at `level`, which is nothing in a `layout` on one line. -/
def lineStart (layout : Layout) (level : Nat) : String :=
  match layout.indent with
  | none => ""
  | some width => "\n" ++ String.ofList (List.replicate (width * level) ' ')

mutual

/-- A value as JSON text in `layout`, where the lines of a list or an object start at `level`. -/
def writtenAt (layout : Layout) (level : Nat) : Value → String
  | .null => "null"
  | .bool truth => if truth then "true" else "false"
  | .int number => toString number
  | .float number => numberLayout.render Decimal.shortest number
  | .str text => writtenText layout.asciiOnly text
  | .list [] => "[]"
  | .list (item :: rest) =>
    "[" ++ lineStart layout (level + 1) ++ writtenAt layout (level + 1) item
      ++ writtenItems layout (level + 1) rest ++ lineStart layout level ++ "]"
  | .obj [] => "\x7b\x7d"
  | .obj ((key, value) :: rest) =>
    "\x7b" ++ lineStart layout (level + 1) ++ writtenText layout.asciiOnly key ++ ": "
      ++ writtenAt layout (level + 1) value ++ writtenMembers layout (level + 1) rest
      ++ lineStart layout level ++ "\x7d"

/-- The items of a list behind the first one, each with the `itemSeparator` before it. -/
def writtenItems (layout : Layout) (level : Nat) : List Value → String
  | [] => ""
  | item :: rest =>
    itemSeparator layout level ++ writtenAt layout level item ++ writtenItems layout level rest

/-- The members of an object behind the first one, each with the `itemSeparator` before it. -/
def writtenMembers (layout : Layout) (level : Nat) : List (String × Value) → String
  | [] => ""
  | (key, value) :: rest =>
    itemSeparator layout level ++ writtenText layout.asciiOnly key ++ ": "
      ++ writtenAt layout level value ++ writtenMembers layout level rest

end

/-- The whole JSON text of `value` in `layout`, from level `0` on. -/
def written (layout : Layout) (value : Value) : String :=
  writtenAt layout 0 value

end Reidentify.Json
