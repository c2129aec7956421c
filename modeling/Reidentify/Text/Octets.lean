import Reidentify.Text.Unpaired

/-!
# Octets of names

The names of files are octets. A text names the octets of its UTF-8 form; an octet that belongs to
no such form is half a pair of units in the text, 0xDC00 further up, so every sequence of octets is
named by a text. Other halves of pairs name nothing.
-/

namespace Reidentify.Text

/-- The octet that `c` names without being encoded: `unit - 0xDC00` for the half of a pair `unit`
from 0xDC80 to 0xDCFF. -/
def strayOctet? (c : Char) : Option UInt8 :=
  let unit := codePoint c
  if 0xDC80 ≤ unit && unit ≤ 0xDCFF then some (UInt8.ofNat (unit - 0xDC00)) else none

/-- The character that names an `octet` which belongs to no encoded character; `strayOctet?` leads
back to it. -/
def strayCharacter (octet : UInt8) : Char := unpaired (0xDC00 + octet.toNat)

/-- The octets that `c` names: its `strayOctet?` if it has one, its UTF-8 form otherwise. -/
def characterOctets (c : Char) : List UInt8 :=
  match strayOctet? c with
  | some octet => [octet]
  | none => String.utf8EncodeChar c

/-- The octets that `text` names, those of its characters (`characterOctets`) one after another. -/
def octets (text : String) : List UInt8 :=
  text.toList.flatMap characterOctets

/-- The number of `octets` that `text` names, which is what the limits of file names and paths
count. -/
def octetCount (text : String) : Nat := (octets text).length

/-- The character that `octet` and those `behind` it begin with, and the number of octets of
`behind` that belong to it. An octet that begins no UTF-8 form is its `strayCharacter`. -/
def leadingCharacter (octet : UInt8) (behind : List UInt8) : Char × Nat :=
  let encoded (more : Nat) : Option Char :=
    (String.fromUTF8? ⟨(octet :: behind.take more).toArray⟩).bind fun text => text.toList.head?
  let found := [0, 1, 2, 3].findSome? fun more => (encoded more).map fun c => (c, more)
  found.getD (strayCharacter octet, 0)

/-- The characters that a list of octets names, where the first `skipped` octets belong to a
character before them. -/
def charactersOf : Nat → List UInt8 → List Char
  | _, [] => []
  | skipped + 1, _ :: rest => charactersOf skipped rest
  | 0, octet :: rest =>
    let (c, more) := leadingCharacter octet rest
    c :: charactersOf more rest

/-- The text that names `octets`. Every list of octets is named by one. -/
def ofOctets (octets : List UInt8) : String := String.ofList (charactersOf 0 octets)

/-- Whether `c` names no octets: it stands for half a pair (`isUnpaired`) and is no `strayOctet?`.
-/
def isNameless (c : Char) : Bool := isUnpaired c && (strayOctet? c).isNone

end Reidentify.Text
