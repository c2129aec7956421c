/-!
# Unpaired code units

A JSON text can name one half of a pair of sixteen-bit units on its own. No character stands for
half a pair, so it is kept as the character of the sixteenth plane that has the same last sixteen
bits, a private one without a meaning. Wherever a text is compared, quoted or written as JSON, such
a character counts as the unit that it stands for; it cannot be written to a file or a store.
-/

namespace Reidentify.Text

/-- The first code point of the sixteenth plane, the last plane that there is, whose characters
stand for unpaired code units here. -/
def lastPlane : Nat := 0x100000

/-- Whether `unit` is half of a pair of sixteen-bit units, from 0xD800 to 0xDFFF. -/
def isHalf (unit : Nat) : Bool :=
  0xD800 ≤ unit && unit < 0xE000

/-- The character that half a pair `unit` is kept as: the one of the sixteenth plane with the same
last sixteen bits. -/
def unpaired (unit : Nat) : Char :=
  Char.ofNat (lastPlane + unit)

/-- Whether `c` stands for half a pair, i.e. is `unpaired unit` for a `unit` with `isHalf unit`. -/
def isUnpaired (c : Char) : Bool :=
  lastPlane ≤ c.toNat && isHalf (c.toNat - lastPlane)

/-- The number that `c` counts as: that of the half of a pair which it stands for, or its own. -/
def codePoint (c : Char) : Nat :=
  if isUnpaired c then c.toNat - lastPlane else c.toNat

/-- The characters with `isUnpaired` are those of one range, U+10D800 to U+10DFFF. -/
theorem isUnpaired_iff {c : Char} :
    isUnpaired c = true ↔ 0x10D800 ≤ c.toNat ∧ c.toNat < 0x10E000 := by
  rw [isUnpaired, isHalf, Bool.and_eq_true, Bool.and_eq_true, decide_eq_true_iff,
    decide_eq_true_iff, decide_eq_true_iff, lastPlane]
  omega

/-- Different characters have different `codePoint`s: no character has the number of half a pair. -/
theorem codePoint_injective {a b : Char} (h : codePoint a = codePoint b) : a = b := by
  have ha : a.toNat < 0xD800 ∨ (0xDFFF < a.toNat ∧ a.toNat < 0x110000) := a.valid
  have hb : b.toNat < 0xD800 ∨ (0xDFFF < b.toNat ∧ b.toNat < 0x110000) := b.valid
  -- outside the range of `isUnpaired` a `codePoint` is a valid one, inside it is not
  have hnat : a.toNat = b.toNat := by
    unfold codePoint lastPlane at h
    split at h <;> split at h <;> simp_all only [isUnpaired_iff] <;> omega
  exact Char.ext (UInt32.toNat_inj.1 hnat)

/-- The first character of a text that stands for half a pair and has the `property`: its position,
counted from `position`, and the character with those behind it that stand for halves as well. -/
def firstUnpaired? (property : Char → Bool) (position : Nat) :
    List Char → Option (Nat × List Char)
  | [] => none
  | c :: rest =>
    if isUnpaired c && property c then some (position, c :: rest.takeWhile isUnpaired)
    else firstUnpaired? property (position + 1) rest

/-- The search `firstUnpaired?` finds nothing iff no character stands for half a pair and has the
`property`. -/
theorem firstUnpaired?_eq_none_iff {property : Char → Bool} {position : Nat} {chars : List Char} :
    firstUnpaired? property position chars = none ↔
      ∀ c ∈ chars, isUnpaired c = true → property c = false := by
  induction chars generalizing position with
  | nil => simp [firstUnpaired?]
  | cons c rest ih =>
    rw [firstUnpaired?, List.forall_mem_cons]
    split
    · next hfound =>
      obtain ⟨hunpaired, hproperty⟩ := Bool.and_eq_true_iff.1 hfound
      simp [hunpaired, hproperty]
    · next hother =>
      rw [ih]
      refine (and_iff_right fun hunpaired => ?_).symm
      simpa [hunpaired] using hother

end Reidentify.Text
