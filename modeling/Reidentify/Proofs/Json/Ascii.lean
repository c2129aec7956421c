import Reidentify.Archive.Cell
import Reidentify.Json.Writer

/-!
# JSON texts in ASCII

A JSON text that escapes everything outside ASCII holds nothing but characters of ASCII, whatever
value it writes. Such a text can be encoded, so nothing in a value can keep its text from being
stored or written to a file.

## Main definitions

* `Text.Ascii`: all characters of a text are in ASCII.

## Main statements

* `Json.ascii_written`: JSON texts in ASCII hold nothing else.
* `Text.Ascii.encodable`: texts in ASCII can be encoded.
-/

namespace Reidentify

namespace Text

variable {chars others : List Char}

/-- All characters of the text `chars` are in ASCII, below 128. -/
def Ascii (chars : List Char) : Prop := ∀ c ∈ chars, c.toNat < 128

instance (chars : List Char) : Decidable (Ascii chars) :=
  List.decidableBAll (fun c : Char => c.toNat < 128) chars

@[simp] theorem ascii_append : Ascii (chars ++ others) ↔ Ascii chars ∧ Ascii others :=
  List.forall_mem_append

@[simp] theorem ascii_cons {c : Char} : Ascii (c :: chars) ↔ c.toNat < 128 ∧ Ascii chars :=
  List.forall_mem_cons

@[simp] theorem ascii_nil : Ascii [] := List.forall_mem_nil _

theorem Ascii.mono (h : Ascii others) (hsub : chars ⊆ others) : Ascii chars :=
  fun c hmem => h c (hsub hmem)

theorem ascii_replicate (n : Nat) {c : Char} (h : c.toNat < 128) : Ascii (List.replicate n c) :=
  fun _ hmem => List.eq_of_mem_replicate hmem ▸ h

theorem ascii_digitChar (n : Nat) : (Nat.digitChar n).toNat < 128 := by
  by_cases hdigit : n < 16
  · have hall : ∀ d : Fin 16, (Nat.digitChar d).toNat < 128 := by decide
    exact hall ⟨n, hdigit⟩
  · have hstar : Nat.digitChar n = '*' := by
      unfold Nat.digitChar
      repeat rw [if_neg (by omega)]
    rw [hstar]
    decide

theorem ascii_toDigits {base : Nat} (hbase : 1 < base) (n : Nat) : Ascii (Nat.toDigits base n) := by
  -- by induction on the number: all digits but the last are those of the quotient
  induction n using Nat.strongRecOn with
  | ind n ih =>
    by_cases hsmall : n < base
    · rw [Nat.toDigits_of_lt_base hsmall]
      simp [ascii_digitChar]
    · rw [Nat.toDigits_of_base_le hbase (by omega)]
      simpa [ascii_digitChar] using ih (n / base) (Nat.div_lt_self (by omega) hbase)

theorem ascii_toString_nat (n : Nat) : Ascii (toString n).toList := by
  simpa [Nat.toString_eq_repr] using ascii_toDigits (by decide) n

/-- A character `c` of a numeral is a digit, or the sign if the number is negative. -/
theorem isDigit_or_eq_of_mem_toString {number : Int} {c : Char}
    (h : c ∈ (toString number).toList) : c.isDigit = true ∨ c = '-' := by
  have hnat {n : Nat} (hmem : c ∈ (Nat.repr n).toList) : c.isDigit = true := by
    rw [Nat.toList_repr] at hmem
    exact Nat.isDigit_of_mem_toDigits (by decide) (by decide) hmem
  cases number with
  | ofNat n => exact .inl (hnat h)
  | negSucc n =>
    change c ∈ ("-" ++ Nat.repr (n + 1)).toList at h
    rw [String.toList_append, List.mem_append] at h
    rcases h with hsign | hdigits
    · exact .inr (List.mem_singleton.1 hsign)
    · exact .inl (hnat hdigits)

theorem ascii_toString_int (n : Int) : Ascii (toString n).toList := by
  intro c hmem
  rcases isDigit_or_eq_of_mem_toString hmem with hdigit | rfl
  · -- digits end at 57
    have hle : c.toNat ≤ 57 := (Char.isDigit_iff_toNat.1 hdigit).2
    omega
  · decide

/-- A `text` in ASCII can be encoded (`Cell.encodable`), as no character in it is half of a pair. -/
theorem Ascii.encodable {text : String} (h : Ascii text.toList) :
    Cell.encodable text = .ok text := by
  refine Cell.encodable_eq_ok_iff.2 fun c hmem => ?_
  have hc := h c hmem
  rw [Bool.eq_false_iff, Ne, isUnpaired_iff]
  omega

end Text

namespace NumberLayout

open Text

theorem ascii_withPoint {digits : List Char} (h : Ascii digits) (whole : Nat) :
    Ascii (withPoint digits whole) := by
  have hfilled : Ascii (digits ++ List.replicate (whole - digits.length) '0') :=
    ascii_append.2 ⟨h, ascii_replicate _ (by decide)⟩
  unfold withPoint
  dsimp only
  refine ascii_append.2 ⟨hfilled.mono (List.take_subset _ _), ascii_cons.2 ⟨by decide, ?_⟩⟩
  split
  · simp
  · exact hfilled.mono (List.drop_subset _ _)

theorem ascii_exponentText (power : Int) : Ascii (exponentText power) := by
  have hdigits := ascii_toString_nat power.natAbs
  unfold exponentText
  dsimp only
  refine ascii_cons.2 ⟨by decide, ascii_cons.2 ⟨?_, ?_⟩⟩
  · split <;> decide
  · split
    · exact ascii_cons.2 ⟨by decide, hdigits⟩
    · exact hdigits

theorem ascii_textOf (layout : NumberLayout) (d : Decimal) : Ascii (layout.textOf d) := by
  have hdigits := ascii_toString_nat d.digits
  unfold textOf
  dsimp only
  -- without an exponent the point stands in front of, inside or behind the digits
  split
  · split
    · exact ascii_cons.2 ⟨by decide, ascii_cons.2 ⟨by decide,
        ascii_append.2 ⟨ascii_replicate _ (by decide), hdigits⟩⟩⟩
    · exact ascii_withPoint hdigits _
  · refine ascii_append.2 ⟨?_, ascii_exponentText _⟩
    split
    · exact hdigits
    · exact ascii_withPoint hdigits 1

end NumberLayout

namespace Json

open Text

variable {layout : Layout}

theorem ascii_number (x : Binary64) :
    Ascii (numberLayout.render Decimal.shortest x).toList := by
  have hsize : Ascii (if x.isZero then ['0', '.', '0']
      else numberLayout.textOf (Decimal.shortest x)) := by
    split
    · decide
    · exact NumberLayout.ascii_textOf _ _
  unfold NumberLayout.render
  split
  · decide
  · split
    · split <;> decide
    · dsimp only
      rw [String.toList_ofList]
      split
      · exact ascii_cons.2 ⟨by decide, hsize⟩
      · exact hsize

theorem ascii_unitEscape (c : Char) : Ascii (unitEscape c) := by
  have hescape (unit : Nat) : Ascii ('\\' :: 'u' :: hexPadded 4 unit) := by
    refine ascii_cons.2 ⟨by decide, ascii_cons.2 ⟨by decide, ?_⟩⟩
    exact ascii_append.2 ⟨ascii_replicate _ (by decide), ascii_toDigits (by decide) unit⟩
  unfold unitEscape
  dsimp only
  split
  · exact hescape _
  · exact ascii_append.2 ⟨hescape _, hescape _⟩

theorem ascii_writtenChar (c : Char) : Ascii (writtenChar true c) := by
  unfold writtenChar
  -- the characters that have an escape of their own
  iterate 7
    split
    · decide
  split
  · exact ascii_unitEscape c
  · split
    · exact ascii_unitEscape c
    · next hinside =>
      have hlast : c.toNat ≤ 0x7E := by simpa using hinside
      exact ascii_cons.2 ⟨by omega, ascii_nil⟩

theorem ascii_writtenText (text : String) : Ascii (writtenText true text).toList := by
  rw [writtenText, String.toList_ofList]
  refine ascii_append.2 ⟨ascii_cons.2 ⟨by decide, ?_⟩, by decide⟩
  intro c hmem
  obtain ⟨d, -, hd⟩ := List.mem_flatMap.1 hmem
  exact ascii_writtenChar d c hd

theorem ascii_append_ofList {text : String} {chars : List Char} (htext : Ascii text.toList)
    (hchars : Ascii chars) : Ascii (text ++ String.ofList chars).toList := by
  rw [String.toList_append, String.toList_ofList]
  exact ascii_append.2 ⟨htext, hchars⟩

theorem ascii_lineStart (level : Nat) : Ascii (lineStart layout level).toList := by
  unfold lineStart
  split
  · decide
  · exact ascii_append_ofList (by decide) (ascii_replicate _ (by decide))

theorem ascii_itemSeparator (level : Nat) : Ascii (itemSeparator layout level).toList := by
  unfold itemSeparator
  split
  · decide
  · exact ascii_append_ofList (by decide) (ascii_replicate _ (by decide))

mutual

theorem ascii_writtenAt (h : layout.asciiOnly = true) (level : Nat) :
    ∀ value, Ascii (writtenAt layout level value).toList
  | .null => by simp [writtenAt]
  | .bool truth => by cases truth <;> simp [writtenAt]
  | .int number => ascii_toString_int number
  | .float number => ascii_number number
  | .str text => by simpa [writtenAt, h] using ascii_writtenText text
  | .list [] => by simp [writtenAt]
  | .list (item :: rest) => by
    have hitem := ascii_writtenAt h (level + 1) item
    have hrest := ascii_writtenItems h (level + 1) rest
    simp [writtenAt, ascii_lineStart, hitem, hrest]
  | .obj [] => by simp [writtenAt]
  | .obj ((key, value) :: rest) => by
    have hvalue := ascii_writtenAt h (level + 1) value
    have hrest := ascii_writtenMembers h (level + 1) rest
    simp [writtenAt, h, ascii_lineStart, ascii_writtenText, hvalue, hrest]

theorem ascii_writtenItems (h : layout.asciiOnly = true) (level : Nat) :
    ∀ items, Ascii (writtenItems layout level items).toList
  | [] => by simp [writtenItems]
  | item :: rest => by
    have hitem := ascii_writtenAt h level item
    have hrest := ascii_writtenItems h level rest
    simp [writtenItems, ascii_itemSeparator, hitem, hrest]

theorem ascii_writtenMembers (h : layout.asciiOnly = true) (level : Nat) :
    ∀ members, Ascii (writtenMembers layout level members).toList
  | [] => by simp [writtenMembers]
  | (key, value) :: rest => by
    have hvalue := ascii_writtenAt h level value
    have hrest := ascii_writtenMembers h level rest
    simp [writtenMembers, h, ascii_itemSeparator, ascii_writtenText, hvalue, hrest]

end

/-- A JSON text is in ASCII, whatever `value` it writes, if its `layout` escapes everything else. -/
theorem ascii_written (h : layout.asciiOnly = true) (value : Value) :
    Ascii (written layout value).toList :=
  ascii_writtenAt h 0 value

end Json

end Reidentify
