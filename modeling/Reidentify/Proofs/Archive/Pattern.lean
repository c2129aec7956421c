import Mathlib.Data.List.Infix
import Mathlib.Data.List.TakeWhile
import Reidentify.Archive.Pattern

/-!
# What patterns stand for

A pattern is compared with a text sign by sign, and only the ends of the text that may be left are
kept on the way. This finds out whether the whole pattern stands for the whole text: a percent sign
for any characters, an underscore for any one, and every character for itself in either case.

A text that is searched for becomes a pattern as it is. So its percent signs and underscores stand
for other characters too, and exactly a text without them is only found where it is contained.

## Main definitions

* `Pattern.StandsFor`: a pattern stands for some characters.
* `Pattern.Finds`: a search for a text finds another one.
* `Pattern.Contains`: a text is part of another one, in either case of its letters.

## Main statements

* `Pattern.fits_iff`: exactly the characters that a pattern stands for fit it.
* `Pattern.fitsText_containing_iff`: what a search for a text finds.
* `Pattern.finds_iff_contains`: what it finds if there are no wildcards in the text.
* `Pattern.exists_finds_not_contains`: what it finds if there are some.
-/

namespace Reidentify.Pattern

/-- A pattern stands for some characters: a percent sign for any of them, an underscore for any one,
and every character for itself, in either case of `foldCase`. -/
inductive StandsFor : List Char → List Char → Prop
  /-- The empty pattern stands for no character. -/
  | nil : StandsFor [] []
  /-- A percent sign stands for any characters, here the `skipped` ones. -/
  | any {pattern text} (skipped : List Char) (h : StandsFor pattern text) :
    StandsFor ('%' :: pattern) (skipped ++ text)
  /-- An underscore stands for any one character `c`. -/
  | one {pattern text} (c : Char) (h : StandsFor pattern text) :
    StandsFor ('_' :: pattern) (c :: text)
  /-- A character `sign` stands for `c` if both are the same up to `foldCase`. -/
  | same {pattern text} {sign c : Char} (hsame : foldCase sign = foldCase c)
    (h : StandsFor pattern text) : StandsFor (sign :: pattern) (c :: text)

variable {pattern pattern' text taken rest whole : List Char} {ends : List (List Char)}
  {sign : Char}

/-- A pattern `pattern ++ pattern'` stands for what its parts stand for, one after the other. -/
theorem standsFor_append_iff : StandsFor (pattern ++ pattern') text ↔
    ∃ front behind, text = front ++ behind ∧ StandsFor pattern front ∧
      StandsFor pattern' behind := by
  constructor
  · intro h
    -- by induction on the first part of the pattern, sign by sign
    induction pattern generalizing text with
    | nil => exact ⟨[], text, rfl, .nil, h⟩
    | cons sign pattern ih =>
      cases h with
      | any skipped h =>
        obtain ⟨front, behind, rfl, hfront, hbehind⟩ := ih h
        exact ⟨skipped ++ front, behind, by simp, .any skipped hfront, hbehind⟩
      | one c h =>
        obtain ⟨front, behind, rfl, hfront, hbehind⟩ := ih h
        exact ⟨c :: front, behind, rfl, .one c hfront, hbehind⟩
      | same hsame h =>
        obtain ⟨front, behind, rfl, hfront, hbehind⟩ := ih h
        exact ⟨_ :: front, behind, rfl, .same hsame hfront, hbehind⟩
  · rintro ⟨front, behind, rfl, hfront, hbehind⟩
    -- by induction on how the first part stands for the front
    induction hfront with
    | nil => exact hbehind
    | any skipped _ ih =>
      rw [List.append_assoc]
      exact .any skipped ih
    | one c _ ih => exact .one c ih
    | same hsame _ ih => exact .same hsame ih

theorem standsFor_nil_iff : StandsFor [] text ↔ text = [] :=
  ⟨fun h => by cases h; rfl, fun h => h ▸ .nil⟩

/-- A percent sign alone stands for every `text`, of any length. -/
theorem standsFor_percent (text : List Char) : StandsFor ['%'] text := by
  have hall := StandsFor.any text .nil
  rwa [List.append_nil] at hall

/-- A `sign` other than the percent sign leaves the `rest` of a text iff it stands for what is
`taken` from its front. -/
theorem behind?_eq_some_iff (hsign : sign ≠ '%') :
    behind? sign whole = some rest ↔ ∃ taken, whole = taken ++ rest ∧ StandsFor [sign] taken := by
  constructor
  · intro h
    cases whole with
    | nil => cases h
    | cons c behind =>
      simp only [behind?, Option.ite_none_right_eq_some, Bool.or_eq_true, beq_iff_eq] at h
      obtain ⟨hsame, h⟩ := h
      cases h
      refine ⟨[c], rfl, ?_⟩
      rcases hsame with rfl | hsame
      · exact .one c .nil
      · exact .same hsame .nil
  · rintro ⟨taken, rfl, h⟩
    cases h with
    | any => exact absurd rfl hsign
    | one c h =>
      obtain rfl := standsFor_nil_iff.1 h
      simp [behind?]
    | same hsame h =>
      obtain rfl := standsFor_nil_iff.1 h
      simp [behind?, hsame]

/-! ## Ends of a text -/

theorem suffixes_eq_tails (chars : List Char) : suffixes chars = chars.tails := by
  induction chars with
  | nil => rfl
  | cons c rest ih => rw [suffixes, ih, List.tails_cons]

/-- Every one of the `ends` of a text is an end of those that are listed before it. -/
def Nested (ends : List (List Char)) : Prop :=
  ends.Pairwise fun longer shorter => shorter <:+ longer

theorem nested_suffixes (chars : List Char) : Nested (suffixes chars) := by
  induction chars with
  | nil => exact List.pairwise_singleton _ _
  | cons c rest ih =>
    refine List.pairwise_cons.2 ⟨fun shorter hshorter => ?_, ih⟩
    rw [suffixes_eq_tails, List.mem_tails] at hshorter
    exact hshorter.trans (List.suffix_cons c rest)

/-- If `shorter` is an end of `longer`, what `behind?` leaves of it is an end of what it leaves of
`longer`. -/
theorem suffix_of_behind? {longer shorter : List Char} (h : shorter <:+ longer)
    (hlonger : behind? sign longer = some rest) (hshorter : behind? sign shorter = some taken) :
    taken <:+ rest := by
  -- both lose their first character
  have htail {whole behind : List Char} (h : behind? sign whole = some behind) :
      behind = whole.tail := by
    cases whole with
    | nil => cases h
    | cons c chars =>
      simp only [behind?, Option.ite_none_right_eq_some] at h
      exact (Option.some.inj h.2).symm
  rw [htail hlonger, htail hshorter]
  obtain ⟨front, rfl⟩ := h
  cases front with
  | nil => exact List.suffix_rfl
  | cons c front => exact (List.tail_suffix shorter).trans (List.suffix_append front shorter)

theorem nested_leftBy (h : Nested ends) : Nested (leftBy ends sign) := by
  unfold leftBy
  split
  · cases ends with
    | nil => exact h
    | cons longest others => exact nested_suffixes longest
  · refine List.pairwise_filterMap.2 (h.imp ?_)
    intro longer shorter hsuffix rest hrest taken htaken
    exact suffix_of_behind? hsuffix hrest htaken

/-- The ends that a `sign` leaves of `Nested` ones are those behind what it stands for. -/
theorem mem_leftBy_iff (h : Nested ends) : rest ∈ leftBy ends sign ↔
    ∃ whole ∈ ends, ∃ taken, whole = taken ++ rest ∧ StandsFor [sign] taken := by
  unfold leftBy
  split
  · next hsign =>
    subst hsign
    cases ends with
    | nil => simp
    | cons longest others =>
      dsimp only
      rw [suffixes_eq_tails, List.mem_tails]
      constructor
      · rintro ⟨taken, rfl⟩
        exact ⟨_, List.mem_cons_self, taken, rfl, standsFor_percent taken⟩
      · rintro ⟨whole, hmem, taken, rfl, -⟩
        -- what is left of a shorter end is left of the longest one too
        rcases List.mem_cons.1 hmem with rfl | hmem
        · exact List.suffix_append taken rest
        · exact (List.suffix_append taken rest).trans (List.rel_of_pairwise_cons h hmem)
  · next hsign =>
    simp only [List.mem_filterMap, behind?_eq_some_iff hsign]

theorem mem_foldl_leftBy_iff (h : Nested ends) : rest ∈ pattern.foldl leftBy ends ↔
    ∃ whole ∈ ends, ∃ taken, whole = taken ++ rest ∧ StandsFor pattern taken := by
  -- the rest of the pattern starts from the ends that its first sign leaves
  induction pattern generalizing ends with
  | nil =>
    simp only [List.foldl_nil, standsFor_nil_iff]
    constructor
    · exact fun hmem => ⟨rest, hmem, [], rfl, rfl⟩
    · rintro ⟨_, hmem, _, rfl, rfl⟩
      exact hmem
  | cons sign pattern ih =>
    rw [List.foldl_cons, ih (nested_leftBy h), ← List.singleton_append]
    simp only [standsFor_append_iff, mem_leftBy_iff h]
    constructor
    · rintro ⟨_, ⟨whole, hmem, front, rfl, hfront⟩, behind, rfl, hbehind⟩
      exact ⟨_, hmem, front ++ behind, by simp, front, behind, rfl, hfront, hbehind⟩
    · rintro ⟨_, hmem, _, rfl, front, behind, rfl, hfront, hbehind⟩
      exact ⟨behind ++ rest, ⟨_, hmem, front, by simp, hfront⟩, behind, rfl, hbehind⟩

/-- Exactly the characters that a `pattern` `StandsFor` fit it, so the way of comparing does not
matter. -/
theorem fits_iff : fits pattern text = true ↔ StandsFor pattern text := by
  have hnested : Nested [text] := List.pairwise_singleton _ _
  -- at first the whole text is left, and at last nothing of it may be
  simp only [fits, List.any_eq_true, List.isEmpty_iff]
  constructor
  · rintro ⟨_, hmem, rfl⟩
    obtain ⟨_, hwhole, taken, rfl, h⟩ := (mem_foldl_leftBy_iff hnested).1 hmem
    rw [← List.mem_singleton.1 hwhole, List.append_nil]
    exact h
  · intro h
    refine ⟨[], (mem_foldl_leftBy_iff hnested).2 ?_, rfl⟩
    exact ⟨text, List.mem_singleton_self text, text, (List.append_nil text).symm, h⟩

/-! ## Searches -/

/-- A character of a pattern stands for others than itself: it is a percent sign or an underscore.
-/
def IsWildcard (c : Char) : Prop := c = '%' ∨ c = '_'

instance : DecidablePred IsWildcard := fun c => inferInstanceAs (Decidable (c = '%' ∨ c = '_'))

/-- A search for a text `part` finds `text`: the part as a pattern stands for something in it. Both
count up to their first character zero, and a part with such a character has to stand for the end.
-/
def Finds (part text : String) : Prop :=
  ∃ front found behind, compared text.toList = front ++ found ++ behind ∧
    StandsFor (compared part.toList) found ∧ ('\x00' ∈ part.toList → behind = [])

/-- The text `part` is contained in `text`, in either case of its letters. -/
def Contains (part text : String) : Prop :=
  part.toList.map foldCase <:+: text.toList.map foldCase

theorem compared_eq_self {chars : List Char} (h : '\x00' ∉ chars) : compared chars = chars := by
  refine List.takeWhile_eq_self_iff.2 fun c hmem => ?_
  rw [bne_iff_ne]
  rintro rfl
  exact h hmem

/-- The character zero hides what is `behind` it from `compared`. -/
theorem compared_append_of_mem {chars behind : List Char} (h : '\x00' ∈ chars) :
    compared (chars ++ behind) = compared chars := by
  obtain ⟨front, others, rfl, hfront⟩ := List.eq_append_cons_of_mem h
  have hkept (others : List Char) : compared (front ++ '\x00' :: others) = front := by
    rw [compared, List.takeWhile_append_of_pos]
    · simp
    · intro c hmem
      rw [bne_iff_ne]
      rintro rfl
      exact hfront hmem
  rw [List.append_assoc, List.cons_append, hkept, hkept]

theorem compared_containing (part : String) : compared (containing part).toList =
    '%' :: (if '\x00' ∈ part.toList then compared part.toList else part.toList ++ ['%']) := by
  have hchars : (containing part).toList = '%' :: (part.toList ++ ['%']) := by simp [containing]
  have hpercent (chars : List Char) : compared ('%' :: chars) = '%' :: compared chars := by
    simp [compared]
  rw [hchars, hpercent]
  split
  · next hzero => rw [compared_append_of_mem hzero]
  · next hzero => rw [compared_eq_self (by simpa using hzero)]

/-- A `text` fits the pattern of `containing part` iff the part `Finds` it. -/
theorem fitsText_containing_iff {part text : String} :
    fitsText (containing part) text = true ↔ Finds part text := by
  rw [fitsText, fits_iff, compared_containing, Finds, ← List.singleton_append,
    standsFor_append_iff]
  split
  · next hzero =>
    -- the percent sign behind a zero is not looked at, so the text has to end there
    constructor
    · rintro ⟨front, found, htext, -, hfound⟩
      exact ⟨front, found, [], by simpa using htext, hfound, fun _ => rfl⟩
    · rintro ⟨front, found, behind, htext, hfound, hend⟩
      obtain rfl := hend hzero
      exact ⟨front, found, by simpa using htext, standsFor_percent front, hfound⟩
  · next hzero =>
    rw [compared_eq_self hzero]
    constructor
    · rintro ⟨front, _, htext, -, h⟩
      obtain ⟨found, behind, rfl, hfound, -⟩ := standsFor_append_iff.1 h
      exact ⟨front, found, behind, by simpa using htext, hfound, fun hmem => absurd hmem hzero⟩
    · rintro ⟨front, found, behind, htext, hfound, -⟩
      refine ⟨front, found ++ behind, by simpa using htext, standsFor_percent front, ?_⟩
      exact standsFor_append_iff.2 ⟨found, behind, rfl, hfound, standsFor_percent behind⟩

/-- A `pattern` without wildcards stands for itself in either case (`foldCase`), and for nothing
else. -/
theorem standsFor_iff_of_plain (h : ∀ c ∈ pattern, ¬ IsWildcard c) :
    StandsFor pattern text ↔ pattern.map foldCase = text.map foldCase := by
  induction pattern generalizing text with
  | nil => rw [standsFor_nil_iff, List.map_nil, @eq_comm _ [], List.map_eq_nil_iff]
  | cons sign pattern ih =>
    obtain ⟨hsign, hrest⟩ := List.forall_mem_cons.1 h
    constructor
    · intro hstands
      cases hstands with
      | any => exact absurd (.inl rfl) hsign
      | one => exact absurd (.inr rfl) hsign
      | same hsame hstands => rw [List.map_cons, List.map_cons, hsame, (ih hrest).1 hstands]
    · intro hsame
      cases text with
      | nil => cases hsame
      | cons c text =>
        obtain ⟨hfirst, hothers⟩ := List.cons.inj hsame
        exact .same hfirst ((ih hrest).2 hothers)

/-- A `part` without wildcards finds a text iff the text `Contains` it, if no character is zero. -/
theorem finds_iff_contains {part text : String} (hplain : ∀ c ∈ part.toList, ¬ IsWildcard c)
    (hpart : '\x00' ∉ part.toList) (htext : '\x00' ∉ text.toList) :
    Finds part text ↔ Contains part text := by
  rw [Finds, Contains, compared_eq_self hpart, compared_eq_self htext]
  simp only [standsFor_iff_of_plain hplain]
  constructor
  · rintro ⟨front, found, behind, htext, hfound, -⟩
    refine ⟨front.map foldCase, behind.map foldCase, ?_⟩
    rw [htext, hfound, List.map_append, List.map_append]
  · rintro ⟨front, behind, hmap⟩
    obtain ⟨beginning, behind', htext, hbeginning, -⟩ := List.map_eq_append_iff.1 hmap.symm
    obtain ⟨front', found, rfl, -, hfound⟩ := List.map_eq_append_iff.1 hbeginning
    exact ⟨front', found, behind', htext, hfound.symm, fun hmem => absurd hmem hpart⟩

/-! ## Wildcards -/

/-- What is left of a character `c` if a percent sign stands for nothing and an underscore for the
letter `x`. -/
def filledIn (c : Char) : List Char :=
  if c = '%' then [] else if c = '_' then ['x'] else [c]

theorem standsFor_flatMap_filledIn (chars : List Char) :
    StandsFor chars (chars.flatMap filledIn) := by
  induction chars with
  | nil => exact .nil
  | cons c chars ih =>
    rw [List.flatMap_cons, filledIn]
    split
    · next hpercent => exact hpercent ▸ .any [] ih
    · split
      · next hunderscore => exact hunderscore ▸ .one 'x' ih
      · exact .same rfl ih

theorem mem_flatMap_filledIn {chars : List Char} {c : Char} (h : c ∈ chars.flatMap filledIn) :
    c = 'x' ∨ c ∈ chars := by
  obtain ⟨origin, horigin, hmem⟩ := List.mem_flatMap.1 h
  unfold filledIn at hmem
  split at hmem
  · cases hmem
  · split at hmem
    · exact .inl (List.mem_singleton.1 hmem)
    · exact .inr (List.mem_singleton.1 hmem ▸ horigin)

theorem not_isWildcard_of_mem_flatMap {chars : List Char} {c : Char}
    (h : c ∈ chars.flatMap filledIn) : ¬ IsWildcard c := by
  obtain ⟨origin, -, hmem⟩ := List.mem_flatMap.1 h
  unfold filledIn at hmem
  split at hmem
  · cases hmem
  · next hpercent =>
    split at hmem
    · rw [List.mem_singleton.1 hmem]
      simp [IsWildcard]
    · next hunderscore =>
      rw [List.mem_singleton.1 hmem]
      exact not_or.2 ⟨hpercent, hunderscore⟩

/-- A wildcard is no letter, so `foldCase` neither makes one nor takes one away. -/
theorem isWildcard_foldCase_iff {c : Char} : IsWildcard (foldCase c) ↔ IsWildcard c := by
  unfold foldCase
  split
  · next hletter =>
    rw [Bool.and_eq_true, decide_eq_true_eq, decide_eq_true_eq] at hletter
    -- no letter is a wildcard, whichever its case
    have hall : ∀ n : Fin 91, 65 ≤ n.val →
        ¬ IsWildcard (Char.ofNat (n + 32)) ∧ ¬ IsWildcard (Char.ofNat n) := by decide
    obtain ⟨hlower, hupper⟩ := hall ⟨c.toNat, Nat.lt_succ_of_le hletter.2⟩ hletter.1
    rw [Char.ofNat_toNat] at hupper
    exact iff_of_false hlower hupper
  · rfl

/-- A `part` with wildcards also finds a `text` that does not contain it: the one in which all
wildcards are `filledIn`. -/
theorem exists_finds_not_contains {part : String} (hwild : ∃ c ∈ part.toList, IsWildcard c)
    (hpart : '\x00' ∉ part.toList) :
    ∃ text, Finds part text ∧ ¬ Contains part text ∧
      ∀ c ∈ text.toList, c = 'x' ∨ c ∈ part.toList := by
  obtain ⟨wildcard, hmem, hwild⟩ := hwild
  have hchars : (String.ofList (part.toList.flatMap filledIn)).toList =
      part.toList.flatMap filledIn := String.toList_ofList
  have hin {c : Char} (h : c ∈ part.toList.flatMap filledIn) := mem_flatMap_filledIn h
  refine ⟨String.ofList (part.toList.flatMap filledIn), ?_, ?_, ?_⟩
  · have hzero : '\x00' ∉ part.toList.flatMap filledIn := fun h =>
      (hin h).elim (by decide) hpart
    refine ⟨[], _, [], ?_, standsFor_flatMap_filledIn _, fun _ => rfl⟩
    rw [hchars, compared_eq_self hzero, compared_eq_self hpart]
    simp
  · -- a wildcard of the text would have to be found, but all of them are filled in
    intro hcontains
    rw [Contains, hchars] at hcontains
    have hfound := hcontains.subset (List.mem_map_of_mem hmem)
    obtain ⟨c, hc, hfold⟩ := List.mem_map.1 hfound
    refine not_isWildcard_of_mem_flatMap hc ?_
    rwa [← isWildcard_foldCase_iff, hfold, isWildcard_foldCase_iff]
  · intro c hc
    rw [hchars] at hc
    exact hin hc

end Reidentify.Pattern
