import Mathlib.Algebra.Group.Nat.Defs
import Reidentify.Archive.Timestamp
import Reidentify.Text.Order

/-!
# Stamps

The archive sorts its runs by their stamps, which are texts. All numbers of a stamp are written in
a fixed width if the year has four digits, so stamps are ordered as the points in time are, and a
point in time without a fraction of a second is read back from its stamp.

## Main definitions

* `Text.decimal`: the digits of a number in a fixed width.
* `Timestamp.IsStampable`: a point in time that a stamp can keep.
* `Timestamp.Before`: the order of points in time.

## Main statements

* `Text.charsBefore_decimal_append`: numbers of a fixed width are ordered as texts.
* `Timestamp.ofStamp?_stamp`: a point in time is read back from its stamp.
* `Timestamp.isBefore_stamp_iff`: stamps are ordered as points in time.
-/

namespace Reidentify

namespace Text

/-- The last digits of a number, as many as the width, with zeros in front, which is how stamps are
written. -/
def decimal : Nat → Nat → List Char
  | 0, _ => []
  | width + 1, n => decimal width (n / 10) ++ [Nat.digitChar (n % 10)]

variable {width m n : Nat}

@[simp] theorem length_decimal (width n : Nat) : (decimal width n).length = width := by
  induction width generalizing n with
  | zero => rfl
  | succ width ih => simp [decimal, ih]

theorem decimal_zero (width : Nat) : decimal width 0 = List.replicate width '0' := by
  induction width with
  | zero => rfl
  | succ width ih => simp [decimal, ih, List.replicate_succ', Nat.digitChar]

/-- With zeros in front the digits of a number `n` that is small enough are those of `decimal`. -/
theorem replicate_append_toDigits (h : n < 10 ^ (width + 1)) :
    List.replicate (width + 1 - (Nat.toDigits 10 n).length) '0' ++ Nat.toDigits 10 n =
      decimal (width + 1) n := by
  -- by induction on the width, from the last digit on
  induction width generalizing n with
  | zero =>
    have hsmall : n < 10 := by omega
    simp [decimal, Nat.toDigits_of_lt_base hsmall, Nat.mod_eq_of_lt hsmall]
  | succ width ih =>
    by_cases hsmall : n < 10
    · -- all digits but the last one are zeros
      have hrest : n / 10 = 0 := by omega
      have hdigit : n % 10 = n := by omega
      rw [decimal, Nat.toDigits_of_lt_base hsmall, hrest, hdigit, decimal_zero]
      rfl
    · rw [decimal, ← ih (by rw [Nat.pow_succ] at h; omega),
        Nat.toDigits_of_base_le (by decide) (by omega), List.length_append, List.length_singleton,
        Nat.add_sub_add_right, List.append_assoc]

theorem toList_zeroPadded (h : n < 10 ^ (width + 1)) :
    (zeroPadded (width + 1) n).toList = decimal (width + 1) n := by
  rw [← replicate_append_toDigits h]
  simp [zeroPadded, Nat.toString_eq_repr, ← String.length_toList]

/-- A number `n` that has as many digits as the width needs no zeros. -/
theorem toDigits_eq_decimal (hlow : 10 ^ width ≤ n) (hhigh : n < 10 ^ (width + 1)) :
    Nat.toDigits 10 n = decimal (width + 1) n := by
  induction width generalizing n with
  | zero =>
    have hsmall : n < 10 := by omega
    simp [decimal, Nat.toDigits_of_lt_base hsmall, Nat.mod_eq_of_lt hsmall]
  | succ width ih =>
    rw [Nat.pow_succ] at hlow hhigh
    have hpos := Nat.pow_pos (n := width) (show 0 < 10 by decide)
    rw [Nat.toDigits_of_base_le (by decide) (by omega), ih (by omega) (by omega)]
    rfl

theorem codePoint_digitChar {d : Nat} (h : d < 10) : codePoint (Nat.digitChar d) = 48 + d := by
  have hall : ∀ d : Fin 10, codePoint (Nat.digitChar d) = 48 + d := by decide
  exact hall ⟨d, h⟩

@[simp] theorem charsBefore_cons_self (c : Char) (as bs : List Char) :
    charsBefore (c :: as) (c :: bs) = charsBefore as bs := by
  simp [charsBefore]

/-- Of texts that begin with different texts `as` and `bs` of one length, these decide the order by
`charsBefore`. -/
theorem charsBefore_append {as bs : List Char} (h : as.length = bs.length) (cs ds : List Char) :
    charsBefore (as ++ cs) (bs ++ ds) = true ↔
      charsBefore as bs = true ∨ (as = bs ∧ charsBefore cs ds = true) := by
  -- by induction on the first text; the first characters that differ decide
  induction as generalizing bs with
  | nil =>
    obtain rfl := List.length_eq_zero_iff.1 h.symm
    simp [charsBefore]
  | cons a as ih =>
    cases bs with
    | nil => cases h
    | cons b bs =>
      have hrest := ih (Nat.succ.inj h)
      simp only [List.cons_append, charsBefore, List.cons.injEq]
      rcases Nat.lt_trichotomy (codePoint a) (codePoint b) with hlt | heq | hgt
      · simp [hlt]
      · obtain rfl := codePoint_injective heq
        simpa using hrest
      · have hne : a ≠ b := fun heq => by simp [heq] at hgt
        simp [hgt, Nat.lt_asymm hgt, hne]

theorem decimal_injective (hm : m < 10 ^ width) (hn : n < 10 ^ width)
    (h : decimal width m = decimal width n) : m = n := by
  induction width generalizing m n with
  | zero => omega
  | succ width ih =>
    rw [Nat.pow_succ] at hm hn
    obtain ⟨hfront, hlast⟩ := List.append_inj' h rfl
    have hrest := ih (by omega) (by omega) hfront
    -- the last digits are the same number
    have hdigit := congrArg codePoint (List.singleton_inj.1 hlast)
    rw [codePoint_digitChar (by omega), codePoint_digitChar (by omega)] at hdigit
    omega

theorem charsBefore_decimal (hm : m < 10 ^ width) (hn : n < 10 ^ width) :
    charsBefore (decimal width m) (decimal width n) = true ↔ m < n := by
  induction width generalizing m n with
  | zero => simp [decimal, charsBefore]; omega
  | succ width ih =>
    rw [Nat.pow_succ] at hm hn
    have hm' : m / 10 < 10 ^ width := by omega
    have hn' : n / 10 < 10 ^ width := by omega
    have hdigits : charsBefore [Nat.digitChar (m % 10)] [Nat.digitChar (n % 10)] = true ↔
        m % 10 < n % 10 := by
      have hm := codePoint_digitChar (show m % 10 < 10 by omega)
      have hn := codePoint_digitChar (show n % 10 < 10 by omega)
      simp [charsBefore, hm, hn]
    have hfront : decimal width (m / 10) = decimal width (n / 10) ↔ m / 10 = n / 10 :=
      ⟨decimal_injective hm' hn', fun h => by rw [h]⟩
    rw [decimal, decimal, charsBefore_append (by simp), ih hm' hn', hfront, hdigits]
    omega

/-- Numbers `m` and `n` of a fixed width decide the order of texts that begin with them, if they
differ. -/
theorem charsBefore_decimal_append (hm : m < 10 ^ width) (hn : n < 10 ^ width)
    (as bs : List Char) :
    charsBefore (decimal width m ++ as) (decimal width n ++ bs) = true ↔
      m < n ∨ (m = n ∧ charsBefore as bs = true) := by
  rw [charsBefore_append (by simp), charsBefore_decimal hm hn]
  exact or_congr_right (and_congr_left' ⟨decimal_injective hm hn, fun h => by rw [h]⟩)

end Text

namespace Timestamp

variable {t a b : Timestamp}

/-- A point in time `t` that a stamp can keep: it exists, the year has four digits, and there is no
fraction of a second. -/
structure IsStampable (t : Timestamp) : Prop where
  /-- The parts of the point in time are in their ranges. -/
  isValid : t.isValid = true
  /-- The year has no less than four digits. -/
  year_ge : 1000 ≤ t.year
  /-- The year has no more than four digits. -/
  year_lt : t.year < 10000
  /-- There is no fraction of a second. -/
  microsecond : t.microsecond = 0

/-- The parts of a point in time `t` up to the seconds, the largest one first. -/
def parts (t : Timestamp) : List Nat :=
  [t.year, t.month, t.day, t.hour, t.minute, t.second]

/-- A point in time `a` lies before `b`: it does in the largest part that differs. -/
def Before (a b : Timestamp) : Prop := a.parts < b.parts

instance (a b : Timestamp) : Decidable (a.Before b) :=
  inferInstanceAs (Decidable (a.parts < b.parts))

/-- All parts of a point in time but the year have no more than two digits. -/
theorem IsStampable.lt (h : t.IsStampable) :
    t.month < 100 ∧ t.day < 100 ∧ t.hour < 100 ∧ t.minute < 100 ∧ t.second < 100 := by
  have hvalid := h.isValid
  simp only [Timestamp.isValid, Bool.and_eq_true, decide_eq_true_eq] at hvalid
  have hdays : daysIn t.year t.month ≤ 31 := by
    unfold daysIn
    split
    · split <;> decide
    · split <;> decide
  omega

/-- The `stamp` of a point in time that `IsStampable`, number by number in a fixed width. -/
theorem IsStampable.toList_stamp (h : t.IsStampable) :
    t.stamp.toList = Text.decimal 4 t.year ++ '-' :: (Text.decimal 2 t.month ++
      '-' :: (Text.decimal 2 t.day ++ 'T' :: (Text.decimal 2 t.hour ++
        ':' :: (Text.decimal 2 t.minute ++ ':' :: (Text.decimal 2 t.second ++ ['Z']))))) := by
  obtain ⟨hmonth, hday, hhour, hminute, hsecond⟩ := h.lt
  have hyear : Nat.toDigits 10 t.year = Text.decimal 4 t.year :=
    Text.toDigits_eq_decimal h.year_ge h.year_lt
  have hpadded {n : Nat} (hn : n < 100) : (Text.zeroPadded 2 n).toList = Text.decimal 2 n :=
    Text.toList_zeroPadded hn
  simp [stamp, behindYear, hyear, hpadded hmonth, hpadded hday, hpadded hhour, hpadded hminute,
    hpadded hsecond]

/-- The digits that `decimal` writes of a number `n` are read back as the number. -/
theorem number?_decimal {width n : Nat} (h : n < 10 ^ width) :
    number? (Text.decimal width n) = some n := by
  have hdigit : ∀ d : Fin 10, ('0' ≤ Nat.digitChar d ∧ Nat.digitChar d ≤ '9') ∧
      (Nat.digitChar d).toNat - 48 = d := by
    decide
  have hall : (Text.decimal width n).all (fun c => '0' ≤ c && c ≤ '9') = true := by
    clear h
    induction width generalizing n with
    | zero => rfl
    | succ width ih => simpa [Text.decimal, ih] using (hdigit ⟨n % 10, by omega⟩).1
  have hvalue : (Text.decimal width n).foldl (fun n c => 10 * n + (c.toNat - 48)) 0 = n := by
    clear hall
    induction width generalizing n with
    | zero => simp [Text.decimal]; omega
    | succ width ih =>
      rw [Nat.pow_succ] at h
      rw [Text.decimal, List.foldl_append, ih (by omega), List.foldl_cons, List.foldl_nil,
        (hdigit ⟨n % 10, by omega⟩).2]
      dsimp only
      omega
  rw [number?, if_pos hall, hvalue]

/-- A point in time that `IsStampable` is read back from its `stamp`. -/
theorem IsStampable.ofStamp?_stamp (h : t.IsStampable) : ofStamp? t.stamp = some t := by
  obtain ⟨hmonth, hday, hhour, hminute, hsecond⟩ := h.lt
  have hread : ofDigits? t.stamp.toList = some (t, ['Z']) := by
    rw [h.toList_stamp]
    -- the places of the digits are those of the stamp
    change (do
      let year ← number? (Text.decimal 4 t.year)
      let month ← number? (Text.decimal 2 t.month)
      let day ← number? (Text.decimal 2 t.day)
      let hour ← number? (Text.decimal 2 t.hour)
      let minute ← number? (Text.decimal 2 t.minute)
      let second ← number? (Text.decimal 2 t.second)
      some ((⟨year, month, day, hour, minute, second, 0⟩ : Timestamp), ['Z'])) = _
    rw [number?_decimal h.year_lt, number?_decimal hmonth, number?_decimal hday,
      number?_decimal hhour, number?_decimal hminute, number?_decimal hsecond]
    simp [← h.microsecond]
  simp [ofStamp?, hread, h.isValid]

/-- Stamps are ordered by `Text.isBefore` as the points in time that they keep are by `Before`. -/
theorem isBefore_stamp_iff (ha : a.IsStampable) (hb : b.IsStampable) :
    Text.isBefore a.stamp b.stamp = true ↔ a.Before b := by
  obtain ⟨hmonth, hday, hhour, hminute, hsecond⟩ := ha.lt
  obtain ⟨hmonth', hday', hhour', hminute', hsecond'⟩ := hb.lt
  rw [Text.isBefore, ha.toList_stamp, hb.toList_stamp,
    Text.charsBefore_decimal_append ha.year_lt hb.year_lt, Text.charsBefore_cons_self,
    Text.charsBefore_decimal_append hmonth hmonth', Text.charsBefore_cons_self,
    Text.charsBefore_decimal_append hday hday', Text.charsBefore_cons_self,
    Text.charsBefore_decimal_append hhour hhour', Text.charsBefore_cons_self,
    Text.charsBefore_decimal_append hminute hminute', Text.charsBefore_cons_self,
    Text.charsBefore_decimal_append hsecond hsecond', Text.charsBefore_irrefl]
  -- what is left is the order of the lists of parts
  simp [Before, parts, List.cons_lt_cons_iff]

/-- Different points in time that are both `IsStampable` have different stamps. -/
theorem stamp_injective (ha : a.IsStampable) (hb : b.IsStampable) (h : a.stamp = b.stamp) :
    a = b := by
  have hread := ha.ofStamp?_stamp
  rw [h, hb.ofStamp?_stamp] at hread
  exact (Option.some.inj hread).symm

end Timestamp

end Reidentify
