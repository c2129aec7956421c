import Mathlib.Logic.Equiv.Basic
import Reidentify.Proofs.Descriptor.Grammar

/-!
# Renaming the classes of descriptors

Obfuscation gives the classes of an artifact new names. The names stand inside of descriptors, so
these change as well, component by component; a text that is no descriptor is left as it is. The
empty name and names with a semicolon are those that no descriptor can hold, and a renaming leaves
them alone.

## Main definitions

* `ClassRenaming`: new names for classes.
* `ClassRenaming.rename`: a text with its class names renamed, if it is a descriptor.

## Main statements

* `ClassRenaming.rename_symm`: renaming can be undone, so it identifies no two texts.
* `ClassRenaming.rename_arrayOf`: the descriptor of a class becomes that of the renamed class.
* `ClassRenaming.parse?_rename`: reading a method descriptor commutes with names.
-/

namespace Reidentify

open Descriptor

/-- New names for classes, different ones for different classes: `map` is a permutation. -/
structure ClassRenaming where
  /-- The new name of a class. -/
  map : Equiv.Perm String
  /-- The empty name stays. -/
  map_empty : map "" = ""
  /-- A name with a semicolon, which no descriptor can hold, stays. -/
  map_of_mem : ∀ name, ';' ∈ name.toList → map name = name

namespace ClassRenaming

variable (names : ClassRenaming)

/-- The renaming that gives the classes their old names back, by the inverse of `map`. -/
def symm : ClassRenaming where
  map := names.map.symm
  map_empty := by rw [Equiv.symm_apply_eq, names.map_empty]
  map_of_mem name h := by rw [Equiv.symm_apply_eq, names.map_of_mem name h]

/-- Only the empty name becomes the empty name under `map`. -/
theorem map_eq_empty_iff {name : String} : names.map name = "" ↔ name = "" := by
  constructor
  · intro h
    apply names.map.injective
    rw [h, names.map_empty]
  · rintro rfl
    exact names.map_empty

/-- A name that a descriptor can hold becomes one that it can hold, without a semicolon. -/
theorem not_mem_map {name : String} (h : ';' ∉ name.toList) :
    ';' ∉ (names.map name).toList := by
  intro hmem
  -- a name with a semicolon stays, so it is the new name of itself only
  have hfix := names.map.injective (names.map_of_mem _ hmem)
  rw [hfix] at hmem
  exact h hmem

/-- The new name `map` of a class, from characters to characters. -/
def mapChars (name : List Char) : List Char :=
  (names.map (String.ofList name)).toList

theorem mapChars_symm (name : List Char) : names.symm.mapChars (names.mapChars name) = name := by
  unfold mapChars symm
  rw [String.ofList_toList, Equiv.symm_apply_apply, String.toList_ofList]

theorem mapChars_ne_nil {name : List Char} (h : name ≠ []) : names.mapChars name ≠ [] := by
  intro hnil
  apply h
  rw [← names.mapChars_symm name, hnil]
  unfold mapChars
  rw [← String.toList_empty]
  exact congrArg String.toList names.symm.map_empty

theorem not_mem_mapChars {name : List Char} (h : ';' ∉ name) : ';' ∉ names.mapChars name :=
  names.not_mem_map (by rwa [String.toList_ofList])

/-- The characters of a row of types, where every class name is replaced by its new one. -/
def renameNames (chars : List Char) : List Char :=
  match chars with
  | [] => []
  | 'L' :: rest =>
    match h : splitClassName? rest with
    | some (name, after) =>
      have : after.length < rest.length + 1 := by
        rw [eq_append_of_splitClassName? h, List.length_append, List.length_cons]
        omega
      'L' :: (names.mapChars name ++ ';' :: renameNames after)
    | none => 'L' :: rest
  | c :: rest => c :: renameNames rest
termination_by chars.length

/-- A `text` with its class names renamed, if it is a descriptor of a field or of a method. -/
def rename (text : String) : String :=
  if isField text || isMethod text then String.ofList (names.renameNames text.toList) else text

/-- The `signature` of a method with the class names of its types renamed. -/
def renameSignature (signature : Signature) : Signature :=
  ⟨signature.arguments.map names.rename, names.rename signature.result⟩

section Names

variable {isLetter : Char → Bool} {type after name : List Char}

theorem renameNames_nil : names.renameNames [] = [] := by
  rw [renameNames]

/-- Every character `c` but the mark of a class is left in its place. -/
theorem renameNames_cons {c : Char} (h : c ≠ 'L') (rest : List Char) :
    names.renameNames (c :: rest) = c :: names.renameNames rest := by
  rw [renameNames]
  exact h

/-- The `name` of a class is renamed in its place, up to the semicolon. -/
theorem renameNames_ofClass (h : ';' ∉ name) (after : List Char) :
    names.renameNames ('L' :: (name ++ ';' :: after)) =
      'L' :: (names.mapChars name ++ ';' :: names.renameNames after) := by
  rw [renameNames]
  split
  · next hsome =>
    rw [splitClassName?_append h] at hsome
    cases hsome
    rfl
  · next hnone =>
    rw [splitClassName?_append h] at hnone
    cases hnone

/-- The class name of a `type` is renamed on its own, whatever comes `after`. -/
theorem renameNames_append (hletters : ProperLetters isLetter) (h : IsType isLetter type)
    (after : List Char) :
    names.renameNames (type ++ after) =
      names.renameNames type ++ names.renameNames after := by
  -- by induction on the type, whose brackets stay in front
  induction h with
  | letter hc =>
    have hne := hletters.ne_mark hc
    rw [List.singleton_append, names.renameNames_cons hne, names.renameNames_cons hne,
      renameNames_nil]
    rfl
  | ofClass hne hmem =>
    -- the name of the class ends at its semicolon, whatever stands behind it
    rw [List.cons_append, List.append_assoc, List.singleton_append,
      names.renameNames_ofClass hmem, names.renameNames_ofClass hmem, renameNames_nil]
    simp
  | array _ ih =>
    rw [List.cons_append, names.renameNames_cons (by decide), ih,
      names.renameNames_cons (by decide), List.cons_append]

/-- A `type` with its class renamed is a type (`IsType`). -/
theorem isType_renameNames (hletters : ProperLetters isLetter) (h : IsType isLetter type) :
    IsType isLetter (names.renameNames type) := by
  induction h with
  | letter hc =>
    rw [names.renameNames_cons (hletters.ne_mark hc), renameNames_nil]
    exact .letter hc
  | ofClass hne hmem =>
    rw [names.renameNames_ofClass hmem, renameNames_nil]
    exact .ofClass (names.mapChars_ne_nil hne) (names.not_mem_mapChars hmem)
  | array _ ih =>
    rw [names.renameNames_cons (by decide)]
    exact .array ih

/-- Renaming the class of a `type` is undone by the renaming `symm`. -/
theorem renameNames_symm_of_isType (hletters : ProperLetters isLetter) (h : IsType isLetter type) :
    names.symm.renameNames (names.renameNames type) = type := by
  induction h with
  | letter hc =>
    have hne := hletters.ne_mark hc
    rw [names.renameNames_cons hne, renameNames_nil, names.symm.renameNames_cons hne,
      renameNames_nil]
  | ofClass hne hmem =>
    rw [names.renameNames_ofClass hmem, renameNames_nil,
      names.symm.renameNames_ofClass (names.not_mem_mapChars hmem), renameNames_nil,
      names.mapChars_symm]
  | array _ ih =>
    rw [names.renameNames_cons (by decide), names.symm.renameNames_cons (by decide), ih]

end Names

section Rows

variable {types : List (List Char)} {chars result tail : List Char}

/-- The class names of a row of `types` are renamed type by type. -/
theorem renameNames_flatten (h : ∀ type ∈ types, IsType isPrimitive type) (after : List Char) :
    names.renameNames (types.flatten ++ after) =
      (types.map names.renameNames).flatten ++ names.renameNames after := by
  -- by induction on the row: each type is renamed on its own
  induction types with
  | nil => rfl
  | cons type more ih =>
    obtain ⟨htype, hmore⟩ := List.forall_mem_cons.1 h
    rw [List.flatten_cons, List.append_assoc,
      names.renameNames_append properLetters_isPrimitive htype, ih hmore, List.map_cons,
      List.flatten_cons, List.append_assoc]

/-- A method descriptor with its classes renamed is a method descriptor of the renamed `arguments`
and `result`. -/
theorem isMethod_renameNames {arguments : List (List Char)}
    (h : Descriptor.IsMethod chars arguments result tail) :
    Descriptor.IsMethod (names.renameNames chars) (arguments.map names.renameNames)
      (names.renameNames result) tail where
  chars_eq := by
    have htail : names.renameNames tail = tail := by
      rcases h.tail with rfl | rfl
      · exact names.renameNames_nil
      · rw [names.renameNames_cons (by decide), renameNames_nil]
    -- the marks between the types stay where they are
    rw [h.chars_eq, names.renameNames_cons (by decide), names.renameNames_flatten h.arguments,
      names.renameNames_cons (by decide),
      names.renameNames_append properLetters_isPrimitiveOrVoid h.result, htail]
  arguments := by
    intro type hmem
    obtain ⟨old, hold, rfl⟩ := List.mem_map.1 hmem
    exact names.isType_renameNames properLetters_isPrimitive (h.arguments old hold)
  result := names.isType_renameNames properLetters_isPrimitiveOrVoid h.result
  tail := h.tail

/-- Renaming the classes of a method descriptor is undone by the renaming `symm`. -/
theorem renameNames_symm_of_isMethod {arguments : List (List Char)}
    (h : Descriptor.IsMethod chars arguments result tail) :
    names.symm.renameNames (names.renameNames chars) = chars := by
  have harguments : (arguments.map names.renameNames).map names.symm.renameNames = arguments := by
    rw [List.map_map]
    conv_rhs => rw [← List.map_id arguments]
    refine List.map_congr_left fun type hmem => ?_
    exact names.renameNames_symm_of_isType properLetters_isPrimitive (h.arguments type hmem)
  have hresult := names.renameNames_symm_of_isType properLetters_isPrimitiveOrVoid h.result
  -- renaming twice gives the method descriptor of the types renamed twice
  rw [(names.symm.isMethod_renameNames (names.isMethod_renameNames h)).chars_eq, harguments,
    hresult, ← h.chars_eq]

end Rows

section Texts

variable {text : String}

/-- In characters, the descriptor of a field is renamed by `renameNames`. -/
theorem rename_of_isField (h : isField text = true) :
    names.rename text = String.ofList (names.renameNames text.toList) := by
  rw [rename, h, Bool.true_or, if_pos rfl]

/-- In characters, the descriptor of a method is renamed by `renameNames`. -/
theorem rename_of_isMethod (h : isMethod text = true) :
    names.rename text = String.ofList (names.renameNames text.toList) := by
  rw [rename, h, Bool.or_true, if_pos rfl]

/-- A `text` that is no descriptor is left as it is by `rename`. -/
theorem rename_of_malformed (hfield : isField text = false) (hmethod : isMethod text = false) :
    names.rename text = text := by
  rw [rename, hfield, hmethod]
  rfl

/-- What `rename` makes of the descriptor of a field is the descriptor of a field. -/
theorem isField_rename_of_isField (h : isField text = true) :
    isField (names.rename text) = true := by
  rw [names.rename_of_isField h, isField_iff, String.toList_ofList]
  exact names.isType_renameNames properLetters_isPrimitive (isField_iff.1 h)

/-- What `rename` makes of the descriptor of a method is the descriptor of a method. -/
theorem isMethod_rename_of_isMethod (h : isMethod text = true) :
    isMethod (names.rename text) = true := by
  obtain ⟨arguments, result, tail, hmethod⟩ := isMethod_iff.1 h
  rw [names.rename_of_isMethod h, isMethod_iff, String.toList_ofList]
  exact ⟨_, _, _, names.isMethod_renameNames hmethod⟩

/-- What `rename` does to a `text` is undone by the renaming `symm`. -/
theorem rename_symm (text : String) : names.symm.rename (names.rename text) = text := by
  cases hfield : isField text with
  | true =>
    rw [names.symm.rename_of_isField (names.isField_rename_of_isField hfield),
      names.rename_of_isField hfield, String.toList_ofList,
      names.renameNames_symm_of_isType properLetters_isPrimitive (isField_iff.1 hfield),
      String.ofList_toList]
  | false =>
    cases hmethod : isMethod text with
    | false =>
      rw [names.rename_of_malformed hfield hmethod, names.symm.rename_of_malformed hfield hmethod]
    | true =>
      obtain ⟨arguments, result, tail, h⟩ := isMethod_iff.1 hmethod
      rw [names.symm.rename_of_isMethod (names.isMethod_rename_of_isMethod hmethod),
        names.rename_of_isMethod hmethod, String.toList_ofList,
        names.renameNames_symm_of_isMethod h, String.ofList_toList]

/-- No two texts become the same text under `rename`. -/
theorem rename_injective : Function.Injective names.rename :=
  Function.LeftInverse.injective names.rename_symm

/-- Renamed texts `a` and `b` are compared like the texts themselves. -/
@[simp] theorem rename_beq (a b : String) : (names.rename a == names.rename b) = (a == b) := by
  rw [Bool.eq_iff_iff, beq_iff_eq, beq_iff_eq]
  exact names.rename_injective.eq_iff

/-- As a text, a `type` is renamed like its characters. -/
theorem rename_ofList_of_isType {type : List Char} (h : IsType isPrimitive type) :
    names.rename (String.ofList type) = String.ofList (names.renameNames type) := by
  rw [names.rename_of_isField (isField_iff.2 (by rwa [String.toList_ofList])),
    String.toList_ofList]

/-- A result is a type, or it has no class name and stays as it is. -/
theorem isType_or_renameNames_eq {type : List Char} (h : IsType isPrimitiveOrVoid type) :
    IsType isPrimitive type ∨ names.renameNames type = type := by
  induction h with
  | letter hc =>
    right
    rw [names.renameNames_cons (properLetters_isPrimitiveOrVoid.ne_mark hc), renameNames_nil]
  | ofClass hne hmem => exact .inl (.ofClass hne hmem)
  | array _ ih =>
    rcases ih with h | h
    · exact .inl (.array h)
    · right
      rw [names.renameNames_cons (by decide), h]

/-- As a text, the type of a result is renamed like its characters. -/
theorem rename_ofList_of_isResult {type : List Char} (h : IsType isPrimitiveOrVoid type) :
    names.rename (String.ofList type) = String.ofList (names.renameNames type) := by
  cases hfield : isField (String.ofList type) with
  | true => rw [names.rename_of_isField hfield, String.toList_ofList]
  | false =>
    -- a result that is no type is `V`, which no renaming changes
    have hmethod : isMethod (String.ofList type) = false := by
      apply isMethod_eq_false
      rw [String.toList_ofList]
      exact h.ne_cons properLetters_isPrimitiveOrVoid
    rw [names.rename_of_malformed hfield hmethod]
    rcases names.isType_or_renameNames_eq h with htype | heq
    · rw [← String.toList_ofList (l := type)] at htype
      rw [isField_iff.2 htype] at hfield
      cases hfield
    · rw [heq]

/-- Reading a method descriptor with `parse?` commutes with renaming its classes. -/
theorem parse?_rename (text : String) :
    Signature.parse? (names.rename text) =
      (Signature.parse? text).map names.renameSignature := by
  cases hmethod : isMethod text with
  | true =>
    obtain ⟨arguments, result, tail, h⟩ := isMethod_iff.1 hmethod
    have hold := ofChars?_eq_some_iff.2 ⟨_, _, _, h, rfl⟩
    have hnew := ofChars?_eq_some_iff.2 ⟨_, _, _, names.isMethod_renameNames h, rfl⟩
    have harguments : (arguments.map String.ofList).map names.rename =
        (arguments.map names.renameNames).map String.ofList := by
      rw [List.map_map, List.map_map]
      refine List.map_congr_left fun type hmem => ?_
      exact names.rename_ofList_of_isType (h.arguments type hmem)
    rw [names.rename_of_isMethod hmethod, Signature.parse?, Signature.parse?,
      String.toList_ofList, hold, hnew, Option.map_some, renameSignature, harguments,
      names.rename_ofList_of_isResult h.result]
  | false =>
    have hold : Signature.parse? text = none := by
      rwa [isMethod, Option.isSome_eq_false_iff, Option.isNone_iff_eq_none] at hmethod
    cases hfield : isField text with
    | false => rw [names.rename_of_malformed hfield hmethod, hold, Option.map_none]
    | true =>
      -- a renamed type is a type, and no type starts with a parenthesis
      have hnew : isMethod (names.rename text) = false := by
        apply isMethod_eq_false
        exact (isField_iff.1 (names.isField_rename_of_isField hfield)).ne_cons
          properLetters_isPrimitive
      rw [isMethod, Option.isSome_eq_false_iff, Option.isNone_iff_eq_none] at hnew
      rw [hnew, hold, Option.map_none]

/-- The characters of the descriptor of a class called `name` in an array of some `dimensions`. -/
theorem toList_arrayOf_ofClass (name : String) (dimensions : Int) :
    (arrayOf (ofClass name) dimensions).toList =
      List.replicate dimensions.toNat '[' ++ 'L' :: (name.toList ++ [';']) := by
  simp [arrayOf, ofClass]

/-- Brackets in front of a class are left in their place, `count` of them. -/
theorem renameNames_replicate (count : Nat) {name : List Char} (h : ';' ∉ name) :
    names.renameNames (List.replicate count '[' ++ 'L' :: (name ++ [';'])) =
      List.replicate count '[' ++ 'L' :: (names.mapChars name ++ [';']) := by
  induction count with
  | zero =>
    rw [List.replicate_zero, List.nil_append, List.nil_append, names.renameNames_ofClass h,
      renameNames_nil]
  | succ count ih =>
    rw [List.replicate_succ, List.cons_append, List.cons_append,
      names.renameNames_cons (by decide), ih]

/-- Brackets in front of a class make up a type iff its `name` can stand in a descriptor. -/
theorem isType_replicate_iff (count : Nat) {name : List Char} :
    IsType isPrimitive (List.replicate count '[' ++ 'L' :: (name ++ [';'])) ↔
      name ≠ [] ∧ ';' ∉ name := by
  induction count with
  | zero => exact isType_ofClass_iff
  | succ count ih =>
    rw [List.replicate_succ, List.cons_append, isType_array_iff properLetters_isPrimitive, ih]

/-- The descriptor of a class, with array `dimensions`, becomes that of the renamed class. -/
theorem rename_arrayOf (name : String) (dimensions : Int) :
    names.rename (arrayOf (ofClass name) dimensions) =
      arrayOf (ofClass (names.map name)) dimensions := by
  have hiff : isField (arrayOf (ofClass name) dimensions) = true ↔
      name.toList ≠ [] ∧ ';' ∉ name.toList := by
    rw [isField_iff, toList_arrayOf_ofClass, isType_replicate_iff]
  cases hfield : isField (arrayOf (ofClass name) dimensions) with
  | true =>
    rw [names.rename_of_isField hfield, ← String.toList_inj, toList_arrayOf_ofClass,
      toList_arrayOf_ofClass, String.toList_ofList, names.renameNames_replicate _ (hiff.1 hfield).2,
      mapChars, String.ofList_toList]
  | false =>
    -- the text starts with a bracket or with `L`
    have hmethod : isMethod (arrayOf (ofClass name) dimensions) = false := by
      apply isMethod_eq_false
      intro rest
      rw [toList_arrayOf_ofClass]
      cases dimensions.toNat <;> simp [List.replicate_succ]
    -- only the empty name and names with a semicolon are left, and those stay
    have hfix : names.map name = name := by
      by_cases hne : name.toList = []
      · rw [String.toList_eq_nil_iff.1 hne, names.map_empty]
      · apply names.map_of_mem
        by_contra hmem
        rw [hiff.2 ⟨hne, hmem⟩] at hfield
        cases hfield
    rw [names.rename_of_malformed hfield hmethod, hfix]

/-- The descriptor `ofClass name` of a class becomes that of the renamed class. -/
theorem rename_ofClass (name : String) :
    names.rename (ofClass name) = ofClass (names.map name) := by
  have h := names.rename_arrayOf name 0
  simpa [arrayOf] using h

end Texts

end ClassRenaming

end Reidentify
