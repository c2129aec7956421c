import Reidentify.Proofs.Descriptor.Grammar

/-!
# Signatures of methods

A signature is written as a method descriptor, and reading the descriptor gives the signature back.
No two signatures are written alike, although the names of their classes may hold any of the marks
that descriptors are written with. In the other direction, reading is a little too generous: besides
what well-formed signatures are written as, it accepts a line end behind the result, and arrays of
void as a result.

## Main definitions

* `Signature.WellFormed`: the arguments are types, and the result is a type or void.
* `Signature.Accepted`: the same, but the result may also be an array of void.

## Main statements

* `Signature.parse?_eq_some_iff`: which texts are read as a signature.
* `Signature.parse?_compose`: well-formed signatures are read back.
* `Signature.isMethod_iff_compose`: what is accepted, and when it is well formed.
-/

namespace Reidentify.Descriptor

section Types

variable {isLetter : Char → Bool} {type : List Char}

/-- A result is a type (`isPrimitive`), or void behind the brackets of `count` array dimensions. -/
theorem isType_isPrimitiveOrVoid_iff :
    IsType isPrimitiveOrVoid type ↔
      IsType isPrimitive type ∨ ∃ count, type = List.replicate count '[' ++ ['V'] := by
  constructor
  · -- a bracket in front of a type makes a type, and in front of the void ones it is one more
    intro h
    induction h with
    | @letter c hc =>
      rcases (Bool.or_eq_true _ _).mp hc with hprimitive | hvoid
      · exact .inl (.letter hprimitive)
      · obtain rfl := beq_iff_eq.1 hvoid
        exact .inr ⟨0, rfl⟩
    | ofClass hne hmem => exact .inl (.ofClass hne hmem)
    | array _ ih =>
      rcases ih with htype | ⟨count, rfl⟩
      · exact .inl (.array htype)
      · exact .inr ⟨count + 1, rfl⟩
  · rintro (h | ⟨count, rfl⟩)
    · induction h with
      | letter hc => exact .letter (by rw [isPrimitiveOrVoid, hc, Bool.true_or])
      | ofClass hne hmem => exact .ofClass hne hmem
      | array _ ih => exact .array ih
    · induction count with
      | zero => exact .letter rfl
      | succ count ih => exact .array ih

/-- A `type` ends with a letter or with the mark behind a class name. -/
theorem IsType.exists_last (h : IsType isLetter type) :
    ∃ front last, type = front ++ [last] ∧ (isLetter last = true ∨ last = ';') := by
  -- by induction on the type: the brackets of an array do not change where it ends
  induction h with
  | @letter c hc => exact ⟨[], c, rfl, .inl hc⟩
  | @ofClass name _ _ => exact ⟨'L' :: name, ';', rfl, .inr rfl⟩
  | array _ ih =>
    obtain ⟨front, last, rfl, hlast⟩ := ih
    exact ⟨'[' :: front, last, rfl, hlast⟩

end Types

namespace Signature

/-- The arguments of a `signature` are types, and its result is a type or void. -/
structure WellFormed (signature : Signature) : Prop where
  /-- Every argument is a type (`isField`). -/
  arguments : ∀ argument ∈ signature.arguments, isField argument = true
  /-- The result is void, written `"V"`, or a type. -/
  result : signature.result = "V" ∨ isField signature.result = true

/-- The arguments of a `signature` are types, and its result is a type or void, possibly with array
dimensions. -/
structure Accepted (signature : Signature) : Prop where
  /-- Every argument is a type (`isField`). -/
  arguments : ∀ argument ∈ signature.arguments, isField argument = true
  /-- The result is a type, or void in an array of `count` dimensions. -/
  result : isField signature.result = true ∨ ∃ count : ℕ, signature.result = arrayOf "V" count

variable {signature : Signature} {text : String}

theorem WellFormed.accepted (h : signature.WellFormed) : signature.Accepted where
  arguments := h.arguments
  result := h.result.symm.imp_right fun hvoid => ⟨0, hvoid⟩

theorem toList_compose (signature : Signature) : signature.compose.toList =
    '(' :: ((signature.arguments.map String.toList).flatten ++ ')' :: signature.result.toList) := by
  simp [compose, String.toList_append, String.toList_join, List.flatMap_def]

theorem toList_arrayOf_void (count : ℕ) :
    (arrayOf "V" count).toList = List.replicate count '[' ++ ['V'] := by
  rw [arrayOf, String.toList_append, String.toList_ofList, Int.toNat_natCast]
  rfl

/-- The results that are `Accepted` are those that the reader of results splits off. -/
theorem accepted_result_iff {result : String} :
    (isField result = true ∨ ∃ count : ℕ, result = arrayOf "V" count) ↔
      IsType isPrimitiveOrVoid result.toList := by
  simp only [isType_isPrimitiveOrVoid_iff, isField_iff, ← String.toList_inj, toList_arrayOf_void]

/-- A `text` is read as a `signature` by `parse?` iff it is what the signature is written as,
possibly with a line end behind it. -/
theorem parse?_eq_some_iff : parse? text = some signature ↔
    signature.Accepted ∧ (text = signature.compose ∨ text = signature.compose ++ "\n") := by
  -- the grammar speaks of lists of characters, the signature of texts
  rw [parse?, ofChars?_eq_some_iff]
  constructor
  · rintro ⟨arguments, result, tail, hmethod, rfl⟩
    have harguments : (arguments.map String.ofList).map String.toList = arguments := by
      have hid : String.toList ∘ String.ofList = id := funext fun _ => String.toList_ofList
      rw [List.map_map, hid, List.map_id]
    refine ⟨⟨?_, ?_⟩, ?_⟩
    · intro argument hmem
      obtain ⟨type, htype, rfl⟩ := List.mem_map.1 hmem
      rw [isField_iff, String.toList_ofList]
      exact hmethod.arguments type htype
    · rw [accepted_result_iff, String.toList_ofList]
      exact hmethod.result
    · simp only [← String.toList_inj, String.toList_append, toList_compose, harguments,
        String.toList_ofList, hmethod.chars_eq]
      rcases hmethod.tail with rfl | rfl
      · exact .inl (by rw [List.append_nil])
      · exact .inr (by simp)
  · rintro ⟨haccepted, htext⟩
    refine ⟨signature.arguments.map String.toList, signature.result.toList, ?_⟩
    have hsignature : signature = ⟨(signature.arguments.map String.toList).map String.ofList,
        String.ofList signature.result.toList⟩ := by
      have hid : String.ofList ∘ String.toList = id := funext fun _ => String.ofList_toList
      rw [List.map_map, hid, List.map_id, String.ofList_toList]
    have harguments : ∀ type ∈ signature.arguments.map String.toList, IsType isPrimitive type := by
      intro type hmem
      obtain ⟨argument, hargument, rfl⟩ := List.mem_map.1 hmem
      exact isField_iff.1 (haccepted.arguments argument hargument)
    have hresult := accepted_result_iff.1 haccepted.result
    rcases htext with rfl | rfl
    · refine ⟨[], ⟨?_, harguments, hresult, .inl rfl⟩, hsignature⟩
      rw [toList_compose, List.append_nil]
    · refine ⟨['\n'], ⟨?_, harguments, hresult, .inr rfl⟩, hsignature⟩
      rw [String.toList_append, toList_compose]
      simp

/-- The text `signature.compose` ends with a letter of its result, or with the mark behind a class
name. -/
theorem Accepted.exists_last (h : signature.Accepted) :
    ∃ front last, signature.compose.toList = front ++ [last] ∧
      (isPrimitiveOrVoid last = true ∨ last = ';') := by
  obtain ⟨front, last, hresult, hlast⟩ := (accepted_result_iff.1 h.result).exists_last
  refine ⟨'(' :: ((signature.arguments.map String.toList).flatten ++ ')' :: front), last, ?_, hlast⟩
  rw [toList_compose, hresult]
  simp

/-- So the text `signature.compose` does not end with a line end. -/
theorem Accepted.not_suffix_lineEnd (h : signature.Accepted) :
    ¬['\n'] <:+ signature.compose.toList := by
  obtain ⟨front, last, hchars, hlast⟩ := h.exists_last
  rintro ⟨before, hbefore⟩
  rw [hchars] at hbefore
  -- the last character would be the line end, which is no letter of a result
  obtain rfl := List.singleton_inj.1 (List.append_inj_right' hbefore rfl)
  exact absurd hlast (by decide)

/-- The text of a signature that is `WellFormed` does not end with an array of void. -/
theorem WellFormed.not_suffix_void (h : signature.WellFormed) :
    ¬['[', 'V'] <:+ signature.compose.toList := by
  rintro ⟨before, hbefore⟩
  rw [toList_compose] at hbefore
  rcases h.result with hvoid | hfield
  · -- in front of a void result stands the mark behind the arguments
    rw [hvoid, ← List.cons_append] at hbefore
    exact absurd (List.append_inj_right' hbefore rfl) (by decide)
  · obtain ⟨front, last, hresult, hlast⟩ := (isField_iff.1 hfield).exists_last
    have hchars : before ++ ['['] ++ ['V'] =
        ('(' :: ((signature.arguments.map String.toList).flatten ++ ')' :: front)) ++ [last] := by
      rw [hresult] at hbefore
      simpa using hbefore
    obtain rfl := List.singleton_inj.1 (List.append_inj_right' hchars rfl)
    exact absurd hlast (by decide)

/-- A signature that is `Accepted` is `WellFormed` unless its text ends with an array of void. -/
theorem Accepted.wellFormed (h : signature.Accepted)
    (hvoid : ¬['[', 'V'] <:+ signature.compose.toList) : signature.WellFormed where
  arguments := h.arguments
  result := by
    rcases h.result with hfield | ⟨count, hcount⟩
    · exact .inr hfield
    · left
      cases count with
      | zero => exact hcount
      | succ count =>
        -- the last bracket of the dimensions stands in front of the letter
        refine absurd ?_ hvoid
        rw [toList_compose, hcount, toList_arrayOf_void, List.replicate_succ']
        exact ⟨'(' :: ((signature.arguments.map String.toList).flatten ++
          ')' :: List.replicate count '['), by simp⟩

/-- A `WellFormed` signature is read back by `parse?` from the method descriptor `signature.compose`
that it is written as, so no `other` well-formed signature is written in the same way. -/
theorem parse?_compose (h : signature.WellFormed) :
    isMethod signature.compose = true ∧ parse? signature.compose = some signature ∧
      ∀ other : Signature, other.WellFormed → other.compose = signature.compose →
        other = signature := by
  have hread {other : Signature} (hother : other.WellFormed) :
      parse? other.compose = some other :=
    parse?_eq_some_iff.2 ⟨hother.accepted, .inl rfl⟩
  refine ⟨?_, hread h, fun other hother hcompose => ?_⟩
  · rw [isMethod, hread h]
    rfl
  · have hsame := hread hother
    rw [hcompose, hread h] at hsame
    exact (Option.some.inj hsame).symm

/-- A signature whose class names are made of the marks of descriptors, and of a line end. -/
def marked : Signature := ⟨["La)I;", "[[L(\n;", "J"], "[L)V[;"⟩

theorem parse?_compose_marked :
    marked.WellFormed ∧ marked.compose = "(La)I;[[L(\n;J)[L)V[;" ∧ isMethod marked.compose = true ∧
      parse? "(La)I;[[L(\n;J)[L)V[;" = some marked ∧
      ∀ other : Signature, other.WellFormed → other.compose = marked.compose → other = marked := by
  have hcompose : marked.compose = "(La)I;[[L(\n;J)[L)V[;" := by decide +kernel
  have hwell : marked.WellFormed := ⟨by decide +kernel, .inr (by decide +kernel)⟩
  obtain ⟨hmethod, hread, hunique⟩ := parse?_compose hwell
  exact ⟨hwell, hcompose, hmethod, hcompose ▸ hread, hunique⟩

/-- The method descriptors that are accepted are what `Accepted` signatures are written as by
`compose`, possibly with a line end behind it. What `parse?` reads from a `text` is such a
signature, and it is `WellFormed` and makes up the whole text iff the text ends neither with a line
end nor with an array of void. -/
theorem isMethod_iff_compose (text : String) :
    (isMethod text = true ↔ ∃ signature : Signature, signature.Accepted ∧
      (text = signature.compose ∨ text = signature.compose ++ "\n")) ∧
    ∀ signature, parse? text = some signature →
      signature.Accepted ∧ (text = signature.compose ∨ text = signature.compose ++ "\n") ∧
      (signature.WellFormed ∧ text = signature.compose ↔
        ¬['\n'] <:+ text.toList ∧ ¬['[', 'V'] <:+ text.toList) := by
  constructor
  · simp only [isMethod, Option.isSome_iff_exists, parse?_eq_some_iff]
  · intro signature hread
    obtain ⟨haccepted, htext⟩ := parse?_eq_some_iff.1 hread
    refine ⟨haccepted, htext, ?_, ?_⟩
    · rintro ⟨hwell, rfl⟩
      exact ⟨haccepted.not_suffix_lineEnd, hwell.not_suffix_void⟩
    · rintro ⟨hline, hvoid⟩
      rcases htext with rfl | rfl
      · exact ⟨haccepted.wellFormed hvoid, rfl⟩
      · -- the line end was taken off, so it stands at the end of the text
        refine absurd ⟨signature.compose.toList, ?_⟩ hline
        rw [String.toList_append]
        rfl

/-- The array of void in `"(I)[V\n"` with a line end behind it is read, the well-formed signature of
`"(I)V"` as well. -/
theorem isMethod_iff_compose_generous :
    (parse? "(I)[V\n" = some ⟨["I"], "[V"⟩ ∧ Accepted ⟨["I"], "[V"⟩ ∧
      ¬(WellFormed ⟨["I"], "[V"⟩ ∧ "(I)[V\n" = compose ⟨["I"], "[V"⟩)) ∧
    parse? "(I)V" = some ⟨["I"], "V"⟩ ∧ WellFormed ⟨["I"], "V"⟩ ∧
      "(I)V" = compose ⟨["I"], "V"⟩ := by
  have hgenerous : parse? "(I)[V\n" = some ⟨["I"], "[V"⟩ := by decide +kernel
  have hstrict : parse? "(I)V" = some ⟨["I"], "V"⟩ := by decide +kernel
  obtain ⟨haccepted, -, hiff⟩ := (isMethod_iff_compose _).2 _ hgenerous
  obtain ⟨-, -, hiff'⟩ := (isMethod_iff_compose _).2 _ hstrict
  refine ⟨⟨hgenerous, haccepted, fun h => (hiff.1 h).1 (by decide)⟩, hstrict, ?_⟩
  exact hiff'.2 ⟨by decide, by decide⟩

/-- So more than the `WellFormed` signatures is accepted: the line end behind the result of
`"()V\n"` is lost, and the array of void in `"()[V"` is no type. -/
theorem isMethod_of_not_wellFormed :
    (isMethod "()V\n" = true ∧ parse? "()V\n" = some ⟨[], "V"⟩ ∧ compose ⟨[], "V"⟩ ≠ "()V\n") ∧
      isMethod "()[V" = true ∧ parse? "()[V" = some ⟨[], "[V"⟩ ∧ ¬WellFormed ⟨[], "[V"⟩ := by
  refine ⟨by decide +kernel, by decide +kernel, by decide +kernel, fun h => ?_⟩
  exact absurd h.result (by decide +kernel)

end Signature

end Reidentify.Descriptor
