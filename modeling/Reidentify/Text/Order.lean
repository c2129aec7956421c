import Reidentify.Text.Unpaired

/-!
# Code-point order

Names are always listed by the code points of their characters, and a list of names that
stands for a set holds every name once. `sortedNames` is that normal form; it is computed by
insertion, so its laws follow the list.
-/

namespace Reidentify.Text

/-- Whether one list of characters stands strictly before another: at the first difference the
smaller `codePoint` comes first, and a proper beginning comes before the longer list. -/
def charsBefore : List Char → List Char → Bool
  | _, [] => false
  | [], _ :: _ => true
  | a :: as, b :: bs =>
    if codePoint a < codePoint b then true
    else if codePoint b < codePoint a then false
    else charsBefore as bs

/-- Whether the name `a` stands strictly before the name `b` in code-point order (`charsBefore`). -/
def isBefore (a b : String) : Bool :=
  charsBefore a.toList b.toList

/-- Puts `name` at its place in an ascending list of names, unless it is there already. -/
def insertName (name : String) : List String → List String
  | [] => [name]
  | other :: rest =>
    if isBefore name other then name :: other :: rest
    else if name = other then other :: rest
    else other :: insertName name rest

/-- The elements of `names` in ascending order, each of them once. Lists with the same elements have
the same `sortedNames`. -/
def sortedNames (names : List String) : List String :=
  names.foldr insertName []

/-- The list `names` is strictly ascending by `isBefore`, so it holds every name at most once. -/
def Ascending (names : List String) : Prop :=
  names.Pairwise fun a b => isBefore a b = true

theorem charsBefore_irrefl (chars : List Char) : charsBefore chars chars = false := by
  induction chars with
  | nil => rfl
  | cons c rest ih => simp [charsBefore, ih]

theorem charsBefore_trans {as bs cs : List Char} (hab : charsBefore as bs = true)
    (hbc : charsBefore bs cs = true) : charsBefore as cs = true := by
  induction as generalizing bs cs with
  | nil => cases cs <;> simp_all [charsBefore]
  | cons a as ih =>
    cases bs with
    | nil => simp [charsBefore] at hab
    | cons b bs =>
      cases cs with
      | nil => simp [charsBefore] at hbc
      | cons c cs =>
        simp only [charsBefore, Bool.if_true_left, Bool.if_false_left, Bool.or_eq_true,
          decide_eq_true_eq, Bool.and_eq_true, Bool.not_eq_true', decide_eq_false_iff_not] at *
        -- only two equal first characters leave the decision to the rest
        rcases hab with h | ⟨h, hrest⟩ <;> rcases hbc with k | ⟨k, krest⟩
        · exact .inl (by omega)
        · exact .inl (by omega)
        · exact .inl (by omega)
        · rcases Nat.lt_or_ge (codePoint a) (codePoint c) with hlt | hge
          · exact .inl hlt
          · exact .inr ⟨by omega, ih hrest krest⟩

theorem charsBefore_total {as bs : List Char} (h : as ≠ bs) :
    charsBefore as bs = true ∨ charsBefore bs as = true := by
  induction as generalizing bs with
  | nil => cases bs <;> simp_all [charsBefore]
  | cons a as ih =>
    cases bs with
    | nil => exact .inr rfl
    | cons b bs =>
      simp only [charsBefore]
      rcases Nat.lt_trichotomy (codePoint a) (codePoint b) with hlt | heq | hgt
      · exact .inl (by simp [hlt])
      · have hrest : as ≠ bs := fun k => h (by rw [codePoint_injective heq, k])
        simpa [heq] using ih hrest
      · exact .inr (by simp [hgt])

/-- No name `a` stands before itself, so `isBefore` is a strict order. -/
theorem isBefore_irrefl (a : String) : isBefore a a = false :=
  charsBefore_irrefl a.toList

theorem isBefore_trans {a b c : String} (hab : isBefore a b = true)
    (hbc : isBefore b c = true) : isBefore a c = true :=
  charsBefore_trans hab hbc

/-- Of two different names `a` and `b` one stands before the other. -/
theorem isBefore_total {a b : String} (h : a ≠ b) : isBefore a b = true ∨ isBefore b a = true :=
  charsBefore_total fun k => h (String.toList_inj.1 k)

/-- A list of `names` that is `Ascending` holds no name twice. -/
theorem Ascending.nodup {names : List String} (h : Ascending names) : names.Nodup := by
  refine List.Pairwise.imp ?_ h
  intro a b hab heq
  rw [heq, isBefore_irrefl] at hab
  cases hab

/-- The elements of `insertName name names` are `name` and those of `names`. -/
theorem mem_insertName {name x : String} {names : List String} :
    x ∈ insertName name names ↔ x = name ∨ x ∈ names := by
  induction names with
  | nil => simp [insertName]
  | cons other rest ih =>
    unfold insertName
    split
    · simp
    · split
      · next h => subst h; simp
      · simp only [List.mem_cons, ih]
        constructor
        · rintro (h | h | h) <;> simp [h]
        · rintro (h | h | h) <;> simp [h]

/-- The elements of `sortedNames names` are those of `names`. -/
@[simp] theorem mem_sortedNames {x : String} {names : List String} :
    x ∈ sortedNames names ↔ x ∈ names := by
  induction names with
  | nil => simp [sortedNames]
  | cons name rest ih =>
    have : sortedNames (name :: rest) = insertName name (sortedNames rest) := rfl
    rw [this, mem_insertName, ih, List.mem_cons]

/-- If `names` is `Ascending`, so is `insertName name names`. -/
theorem ascending_insertName {name : String} {names : List String} (h : Ascending names) :
    Ascending (insertName name names) := by
  induction names with
  | nil => exact List.pairwise_singleton _ _
  | cons other rest ih =>
    obtain ⟨hother, hrest⟩ := List.pairwise_cons.1 h
    unfold insertName
    split
    · next hbefore =>
      refine List.pairwise_cons.2 ⟨?_, h⟩
      intro x hx
      rcases List.mem_cons.1 hx with rfl | hx
      · exact hbefore
      · exact isBefore_trans hbefore (hother x hx)
    · next hbefore =>
      split
      · exact h
      · next hne =>
        refine List.pairwise_cons.2 ⟨?_, ih hrest⟩
        intro x hx
        -- neither before `other` nor equal to it, `name` stands behind it, and so does the rest
        rcases mem_insertName.1 hx with rfl | hx
        · exact (isBefore_total hne).resolve_left hbefore
        · exact hother x hx

/-- The list `sortedNames names` is `Ascending`, whatever `names` is. -/
theorem ascending_sortedNames (names : List String) : Ascending (sortedNames names) := by
  induction names with
  | nil => exact List.Pairwise.nil
  | cons name rest ih => exact ascending_insertName ih

/-- A list of `names` that is `Ascending` is its own `sortedNames`. -/
theorem sortedNames_of_ascending {names : List String} (h : Ascending names) :
    sortedNames names = names := by
  induction names with
  | nil => rfl
  | cons name rest ih =>
    obtain ⟨hname, hrest⟩ := List.pairwise_cons.1 h
    change insertName name (sortedNames rest) = name :: rest
    rw [ih hrest]
    cases rest with
    | nil => rfl
    | cons other more => rw [insertName, if_pos (hname other (List.mem_cons_self ..))]

end Reidentify.Text
