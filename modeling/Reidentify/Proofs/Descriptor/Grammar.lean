import Mathlib.Data.List.Basic
import Reidentify.Artifact.Descriptor

/-!
# The grammar of type descriptors

The reader of descriptors splits the front of a text. This module says which texts it accepts: a
type is a letter, a class name between `L` and a semicolon, or a bracket in front of a type. What
the reader splits off is a type, and whatever stands behind a type, the reader splits off exactly
that type. Method descriptors are rows of types between their marks.

## Main definitions

* `IsType isLetter chars`: the characters write a type whose letter is one of the given ones.
* `IsMethod chars arguments result tail`: the characters write a method descriptor.

## Main statements

* `splitType?_append`: a type in front of anything is split off.
* `isType_of_splitType?`: whatever is split off is a type.
* `isField_iff`: field descriptors are the texts that write a type.
* `findTypes_flatten`: looking for types in a row of types finds exactly these.
* `ofChars?_eq_some_iff`: method descriptors are the texts that write the types of a signature.
-/

namespace Reidentify.Descriptor

/-- The characters write a type, where `isLetter` says which letters are types by themselves. -/
inductive IsType (isLetter : Char → Bool) : List Char → Prop
  /-- A type without a class is a letter `c`. -/
  | letter {c} (h : isLetter c = true) : IsType isLetter [c]
  /-- The type of a class is its `name` between the marks `'L'` and `';'`. -/
  | ofClass {name} (hne : name ≠ []) (hmem : ';' ∉ name) :
      IsType isLetter ('L' :: (name ++ [';']))
  /-- The type of an array is the bracket `'['` in front of the type of its elements. -/
  | array {element} (h : IsType isLetter element) : IsType isLetter ('[' :: element)

/-- The letters that `isLetter` accepts are none of the marks that descriptors are written with. -/
structure ProperLetters (isLetter : Char → Bool) : Prop where
  /-- No letter is the mark `'['` of an array. -/
  bracket : isLetter '[' = false
  /-- No letter is the mark `'L'` of a class. -/
  mark : isLetter 'L' = false
  /-- No letter is the mark `'('` in front of the arguments of a method. -/
  parenthesis : isLetter '(' = false

/-- A letter `c` that is a type by itself does not start an array type. -/
theorem ProperLetters.ne_bracket {isLetter : Char → Bool} (h : ProperLetters isLetter) {c : Char}
    (hc : isLetter c = true) : c ≠ '[' := by
  rintro rfl
  rw [h.bracket] at hc
  cases hc

/-- A letter `c` that is a type by itself does not start the type of a class. -/
theorem ProperLetters.ne_mark {isLetter : Char → Bool} (h : ProperLetters isLetter) {c : Char}
    (hc : isLetter c = true) : c ≠ 'L' := by
  rintro rfl
  rw [h.mark] at hc
  cases hc

theorem properLetters_isPrimitive : ProperLetters isPrimitive := ⟨rfl, rfl, rfl⟩

theorem properLetters_isPrimitiveOrVoid : ProperLetters isPrimitiveOrVoid := ⟨rfl, rfl, rfl⟩

section Reader

variable {isLetter : Char → Bool} {chars type after name : List Char}

/-- A class name without semicolons is split off at the semicolon behind it, whatever comes `after`.
-/
theorem splitClassName?_append (h : ';' ∉ name) (after : List Char) :
    splitClassName? (name ++ ';' :: after) = some (name, after) := by
  -- by induction on the name: none of its characters is the semicolon that the reader stops at
  induction name with
  | nil => rfl
  | cons c rest ih =>
    obtain ⟨hc, hrest⟩ := not_or.1 (mt List.mem_cons.2 h)
    rw [List.cons_append, splitClassName?, ih hrest]
    exact fun heq => hc heq.symm

/-- A class name that `splitClassName?` splits off holds no semicolon. -/
theorem not_mem_of_splitClassName? (h : splitClassName? chars = some (name, after)) :
    ';' ∉ name := by
  fun_induction splitClassName? chars generalizing name after with
  | case1 => cases h
  | case2 =>
    cases h
    exact List.not_mem_nil
  | case3 c rest hc name' after' hrest ih =>
    cases h
    rw [List.mem_cons, not_or]
    exact ⟨fun heq => hc heq.symm, ih hrest⟩
  | case4 => cases h

/-- A `type` in front of anything is split off, and what stands `after` it is left. -/
theorem splitType?_append (hletters : ProperLetters isLetter) (h : IsType isLetter type)
    (after : List Char) : splitType? isLetter (type ++ after) = some (type, after) := by
  induction h with
  | letter hc =>
    -- the reader looks for both marks before it tries a letter
    rw [List.singleton_append, splitType?, if_pos hc]
    · exact hletters.ne_bracket hc
    · exact hletters.ne_mark hc
  | @ofClass name hne hmem =>
    obtain ⟨c, rest, rfl⟩ := List.exists_cons_of_ne_nil hne
    rw [List.cons_append, List.append_assoc, List.singleton_append, splitType?,
      splitClassName?_append hmem]
    rfl
  | array _ ih => rw [List.cons_append, splitType?, ih]

/-- Whatever `splitType?` splits off is a type (`IsType`). -/
theorem isType_of_splitType? (h : splitType? isLetter chars = some (type, after)) :
    IsType isLetter type := by
  fun_induction splitType? isLetter chars generalizing type after with
  | case1 rest element after' hrest ih =>
    cases h
    exact .array (ih hrest)
  | case2 => cases h
  | case3 => cases h
  | case4 rest name after' hne hrest =>
    cases h
    exact .ofClass (fun heq => hne (by rw [heq])) (not_mem_of_splitClassName? hrest)
  | case5 => cases h
  | case6 c rest _ _ hc =>
    cases h
    exact .letter hc
  | case7 => cases h
  | case8 => cases h

/-- A `type` has at least one character, so a row of types can be told apart. -/
theorem IsType.ne_nil (h : IsType isLetter type) : type ≠ [] := by
  cases h with
  | letter => exact List.cons_ne_nil _ _
  | ofClass => exact List.cons_ne_nil _ _
  | array => exact List.cons_ne_nil _ _

/-- A `type` does not start with the parenthesis of a method descriptor. -/
theorem IsType.ne_cons (hletters : ProperLetters isLetter) (h : IsType isLetter type)
    (rest : List Char) : type ≠ '(' :: rest := by
  rintro rfl
  cases h with
  | letter hc =>
    rw [hletters.parenthesis] at hc
    cases hc

/-- A bracket in front of `type` writes a type iff `type` writes one. -/
theorem isType_array_iff (hletters : ProperLetters isLetter) :
    IsType isLetter ('[' :: type) ↔ IsType isLetter type := by
  constructor
  · intro h
    cases h with
    | letter hc => exact absurd rfl (hletters.ne_bracket hc)
    | array h => exact h
  · exact .array

/-- A `name` between the marks of a class is a type iff it is not empty and has no semicolon. -/
theorem isType_ofClass_iff :
    IsType isLetter ('L' :: (name ++ [';'])) ↔ name ≠ [] ∧ ';' ∉ name := by
  constructor
  · intro h
    generalize hchars : 'L' :: (name ++ [';']) = chars at h
    cases h with
    | letter => simp at hchars
    | ofClass hne hmem =>
      obtain rfl := List.append_cancel_right (List.cons.inj hchars).2
      exact ⟨hne, hmem⟩
    | array => cases hchars
  · rintro ⟨hne, hmem⟩
    exact .ofClass hne hmem

end Reader

/-- Field descriptors (`isField`) are the texts that write a type, and void is none. -/
theorem isField_iff {text : String} : isField text = true ↔ IsType isPrimitive text.toList := by
  unfold isField
  constructor
  · intro h
    split at h
    · next type hsplit =>
      rw [eq_append_of_splitType? hsplit, List.append_nil]
      exact isType_of_splitType? hsplit
    · cases h
  · intro h
    have hsplit := splitType?_append properLetters_isPrimitive h []
    rw [List.append_nil] at hsplit
    rw [hsplit]

section Rows

variable {types : List (List Char)} {chars rest : List Char}

/-- A row of `types` in front of a `rest` that starts with no type is split off by `splitTypes`. -/
theorem splitTypes_append (h : ∀ type ∈ types, IsType isPrimitive type)
    (hrest : splitType? isPrimitive rest = none) :
    splitTypes (types.flatten ++ rest) = (types, rest) := by
  -- by induction on the row; where it ends, the reader finds no type and stops
  induction types with
  | nil =>
    rw [List.flatten_nil, List.nil_append, splitTypes]
    split
    · rfl
    · next hsome =>
      rw [hrest] at hsome
      cases hsome
  | cons type more ih =>
    have hsplit := splitType?_append properLetters_isPrimitive (h type (List.mem_cons_self ..))
      (more.flatten ++ rest)
    rw [List.flatten_cons, List.append_assoc, splitTypes]
    split
    · next hnone =>
      rw [hsplit] at hnone
      cases hnone
    · next hsome =>
      rw [hsplit] at hsome
      cases hsome
      rw [ih fun other hother => h other (List.mem_cons_of_mem _ hother)]

/-- The `types` that `splitTypes` splits off and the `rest` make up the characters. -/
theorem eq_append_of_splitTypes (h : splitTypes chars = (types, rest)) :
    chars = types.flatten ++ rest ∧ ∀ type ∈ types, IsType isPrimitive type := by
  fun_induction splitTypes chars generalizing types rest with
  | case1 =>
    cases h
    exact ⟨rfl, fun _ hmem => absurd hmem List.not_mem_nil⟩
  | case2 chars type after hsplit _ others behind hbehind ih =>
    cases h
    obtain ⟨hafter, hothers⟩ := ih hbehind
    refine ⟨?_, List.forall_mem_cons.2 ⟨isType_of_splitType? hsplit, hothers⟩⟩
    rw [eq_append_of_splitType? hsplit, hafter, List.flatten_cons, List.append_assoc]

/-- In a row of `types` exactly these are found by `findTypes`. -/
theorem findTypes_flatten (h : ∀ type ∈ types, IsType isPrimitive type) :
    findTypes types.flatten = types := by
  -- by induction on the row; a type is found at its start, so no character is passed over
  induction types with
  | nil => rw [List.flatten_nil, findTypes]
  | cons type more ih =>
    obtain ⟨htype, hmore⟩ := List.forall_mem_cons.1 h
    obtain ⟨c, tail, rfl⟩ := List.exists_cons_of_ne_nil htype.ne_nil
    have hsplit := splitType?_append properLetters_isPrimitive htype more.flatten
    rw [List.flatten_cons]
    rw [List.cons_append] at hsplit ⊢
    rw [findTypes]
    split
    · next hnone =>
      rw [hsplit] at hnone
      cases hnone
    · next hsome =>
      rw [hsplit] at hsome
      cases hsome
      rw [ih hmore]

end Rows

/-- The characters write a method descriptor with some `arguments` and a `result`, possibly with a
line end behind it, which is the `tail`. -/
structure IsMethod (chars : List Char) (arguments : List (List Char)) (result tail : List Char) :
    Prop where
  /-- The `arguments` stand between parentheses in front of the `result`. -/
  chars_eq : chars = '(' :: (arguments.flatten ++ ')' :: (result ++ tail))
  /-- The `arguments` are types. -/
  arguments : ∀ type ∈ arguments, IsType isPrimitive type
  /-- The `result` is a type or void, possibly behind brackets. -/
  result : IsType isPrimitiveOrVoid result
  /-- Only a line end may follow, as the `tail`. -/
  tail : tail = [] ∨ tail = ['\n']

/-- A method descriptor is divided by `splitMethod?` into its arguments, one behind the other, and
its `result`. -/
theorem splitMethod?_eq_some_iff {chars between result : List Char} :
    splitMethod? chars = some (between, result) ↔
      ∃ arguments tail, IsMethod chars arguments result tail ∧ between = arguments.flatten := by
  constructor
  · intro h
    unfold splitMethod? at h
    split at h
    · next rest =>
      split at h
      · next types behind htypes =>
        obtain ⟨hrest, hall⟩ := eq_append_of_splitTypes htypes
        -- the two accepted endings differ only in the line end
        split at h
        · next result' hresult =>
          cases h
          refine ⟨types, [], ⟨?_, hall, isType_of_splitType? hresult, .inl rfl⟩, rfl⟩
          rw [hrest, eq_append_of_splitType? hresult]
        · next result' hresult =>
          cases h
          refine ⟨types, ['\n'], ⟨?_, hall, isType_of_splitType? hresult, .inr rfl⟩, rfl⟩
          rw [hrest, eq_append_of_splitType? hresult]
        · cases h
      · cases h
    · cases h
  · rintro ⟨arguments, tail, ⟨rfl, harguments, hresult, htail⟩, rfl⟩
    have hsplit := splitType?_append properLetters_isPrimitiveOrVoid hresult tail
    rw [splitMethod?, splitTypes_append harguments rfl]
    rcases htail with rfl | rfl
    · simp only [hsplit]
    · simp only [hsplit]

/-- Method descriptors are the texts that write the types of a `signature` (`IsMethod`). -/
theorem ofChars?_eq_some_iff {chars : List Char} {signature : Signature} :
    Signature.ofChars? chars = some signature ↔
      ∃ arguments result tail, IsMethod chars arguments result tail ∧
        signature = ⟨arguments.map String.ofList, String.ofList result⟩ := by
  unfold Signature.ofChars?
  constructor
  · intro h
    split at h
    · next between result hsplit =>
      cases h
      obtain ⟨arguments, tail, hmethod, rfl⟩ := splitMethod?_eq_some_iff.1 hsplit
      refine ⟨arguments, result, tail, hmethod, ?_⟩
      -- the second look finds the types that the first one has passed over
      rw [findTypes_flatten hmethod.arguments]
    · cases h
  · rintro ⟨arguments, result, tail, hmethod, rfl⟩
    rw [splitMethod?_eq_some_iff.2 ⟨arguments, tail, hmethod, rfl⟩]
    simp only [findTypes_flatten hmethod.arguments]

/-- A `text` is a method descriptor iff it writes the types of some signature (`IsMethod`). -/
theorem isMethod_iff {text : String} :
    isMethod text = true ↔ ∃ arguments result tail, IsMethod text.toList arguments result tail := by
  unfold isMethod Signature.parse?
  rw [Option.isSome_iff_exists]
  constructor
  · rintro ⟨signature, h⟩
    obtain ⟨arguments, result, tail, hmethod, -⟩ := ofChars?_eq_some_iff.1 h
    exact ⟨arguments, result, tail, hmethod⟩
  · rintro ⟨arguments, result, tail, h⟩
    exact ⟨_, ofChars?_eq_some_iff.2 ⟨arguments, result, tail, h, rfl⟩⟩

/-- A `text` that does not start with a parenthesis is no method descriptor. -/
theorem isMethod_eq_false {text : String} (h : ∀ rest, text.toList ≠ '(' :: rest) :
    isMethod text = false := by
  rw [Bool.eq_false_iff]
  intro hmethod
  obtain ⟨arguments, result, tail, hchars⟩ := isMethod_iff.1 hmethod
  exact h _ hchars.chars_eq

end Reidentify.Descriptor
