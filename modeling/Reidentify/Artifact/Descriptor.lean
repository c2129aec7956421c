/-!
# Type descriptors

A type is written as a descriptor: a letter for a primitive type, or `L`, the name of a class
and a semicolon, in both cases behind one opening bracket for every array dimension. A method
descriptor is the descriptors of the arguments between parentheses, followed by the one of the
result, which may also be void. A class name is any text without a semicolon but the empty one.

`Signature.parse?` reads a method descriptor and `Signature.compose` writes one.
-/

namespace Reidentify.Descriptor

/-- Whether `c` is the letter of a primitive type that a field may have. -/
def isPrimitive (c : Char) : Bool :=
  c == 'Z' || c == 'B' || c == 'C' || c == 'S' || c == 'I' || c == 'J' || c == 'F' || c == 'D'

/-- Whether `c` is a letter that a method result may have: that of a primitive type (`isPrimitive`)
or void. -/
def isPrimitiveOrVoid (c : Char) : Bool :=
  isPrimitive c || c == 'V'

/-- The name of a class up to its semicolon, and what follows the semicolon. Without a semicolon
there is no name. -/
def splitClassName? : List Char → Option (List Char × List Char)
  | [] => none
  | ';' :: rest => some ([], rest)
  | c :: rest =>
    match splitClassName? rest with
    | some (name, after) => some (c :: name, after)
    | none => none

/-- The descriptor at the front of some characters, and what follows it. The letters of the types
without a class are those of `isLetter`. -/
def splitType? (isLetter : Char → Bool) : List Char → Option (List Char × List Char)
  | '[' :: rest =>
    match splitType? isLetter rest with
    | some (element, after) => some ('[' :: element, after)
    | none => none
  | 'L' :: rest =>
    match splitClassName? rest with
    | some ([], _) => none
    | some (name, after) => some ('L' :: name ++ [';'], after)
    | none => none
  | c :: rest => if isLetter c then some ([c], rest) else none
  | [] => none

/-- What `splitClassName?` finds, `name` and `after` with the semicolon between them, are the
characters it was given. -/
theorem eq_append_of_splitClassName? {chars name after : List Char}
    (h : splitClassName? chars = some (name, after)) : chars = name ++ ';' :: after := by
  fun_induction splitClassName? chars generalizing name after with
  | case1 => simp at h
  | case2 rest => simp_all
  | case3 c rest hc name' after' hr ih =>
    simp only [Option.some.injEq, Prod.mk.injEq] at h
    rw [ih hr, ← h.1, ← h.2]
    rfl
  | case4 c rest hc hr => simp at h

/-- What `splitType?` finds, `type` and `after`, are the characters it was given. -/
theorem eq_append_of_splitType? {isLetter : Char → Bool} {chars type after : List Char}
    (h : splitType? isLetter chars = some (type, after)) : chars = type ++ after := by
  fun_induction splitType? isLetter chars generalizing type after with
  -- the cases follow the branches of `splitType?`: an array, a class, a letter and the failures
  | case1 rest element after' hr ih =>
    simp only [Option.some.injEq, Prod.mk.injEq] at h
    rw [ih hr, ← h.1, ← h.2]
    rfl
  | case2 => simp at h
  | case3 => simp at h
  | case4 rest name after' hn hr =>
    simp only [Option.some.injEq, Prod.mk.injEq] at h
    rw [eq_append_of_splitClassName? hr, ← h.1, ← h.2]
    simp
  | case5 => simp at h
  | case6 c rest _ _ hc =>
    simp only [Option.some.injEq, Prod.mk.injEq] at h
    rw [← h.1, ← h.2]
    rfl
  | case7 => simp at h
  | case8 => simp at h

/-- A descriptor `type` that `splitType?` finds has at least one character. -/
theorem ne_nil_of_splitType? {isLetter : Char → Bool} {chars type after : List Char}
    (h : splitType? isLetter chars = some (type, after)) : type ≠ [] := by
  unfold splitType? at h
  repeat' split at h
  all_goals
    first
    | (simp only [Option.some.injEq, Prod.mk.injEq] at h
       rw [← h.1]
       simp)
    | simp at h

/-- Splitting off a descriptor leaves fewer characters, on which `splitTypes` and `findTypes`
terminate. -/
theorem length_lt_of_splitType? {isLetter : Char → Bool} {chars type after : List Char}
    (h : splitType? isLetter chars = some (type, after)) : after.length < chars.length := by
  rw [eq_append_of_splitType? h, List.length_append]
  have := List.length_pos_iff.2 (ne_nil_of_splitType? h)
  omega

/-- The descriptors at the front of `chars`, as many as there are, and what follows them. -/
def splitTypes (chars : List Char) : List (List Char) × List Char :=
  match h : splitType? isPrimitive chars with
  | none => ([], chars)
  | some (type, after) =>
    have := length_lt_of_splitType? h
    let (types, rest) := splitTypes after
    (type :: types, rest)
termination_by chars.length

/-- The descriptors in some characters, found one after another from the left. A character at which
none starts is passed over, unlike in `splitTypes`. -/
def findTypes : List Char → List (List Char)
  | [] => []
  | c :: rest =>
    match h : splitType? isPrimitive (c :: rest) with
    | none => findTypes rest
    | some (type, after) =>
      have : after.length < rest.length + 1 := length_lt_of_splitType? h
      type :: findTypes after
termination_by chars => chars.length

/-- Whether `text` is the descriptor of a field: a single descriptor with `isPrimitive` letters and
nothing behind it. -/
def isField (text : String) : Bool :=
  match splitType? isPrimitive text.toList with
  | some (_, []) => true
  | _ => false

/-- The descriptor of the class `name`, which stands between `L` and a semicolon. -/
def ofClass (name : String) : String :=
  "L" ++ name ++ ";"

/-- The descriptor of an array of `element` with this number of `dimensions`; a negative number adds
none. -/
def arrayOf (element : String) (dimensions : Int) : String :=
  String.ofList (List.replicate dimensions.toNat '[') ++ element

/-- The number of array dimensions of a descriptor, counted by the opening brackets at its front. -/
def dimensions (text : String) : Nat :=
  (text.toList.takeWhile (· == '[')).length

/-- The descriptor `text` without the brackets of its array dimensions. -/
def element (text : String) : String :=
  String.ofList (text.toList.dropWhile (· == '['))

/-- The `arguments` and the `result` of a method, the types that its descriptor lists. -/
structure Signature where
  /-- The descriptors of the arguments. -/
  arguments : List String
  /-- The descriptor of the result. -/
  result : String
  deriving DecidableEq, Repr

/-- The method descriptor of `signature`: its arguments between parentheses, then its result. -/
def Signature.compose (signature : Signature) : String :=
  "(" ++ String.join signature.arguments ++ ")" ++ signature.result

/-- The parts of a method descriptor: what stands between the parentheses, and the result. A single
line end behind the result is passed over. -/
def splitMethod? : List Char → Option (List Char × List Char)
  | '(' :: rest =>
    match splitTypes rest with
    | (types, ')' :: behind) =>
      match splitType? isPrimitiveOrVoid behind with
      | some (result, []) | some (result, ['\n']) => some (types.flatten, result)
      | _ => none
    | _ => none
  | _ => none

/-- The signature that `chars` write. The arguments are looked for once more with `findTypes`, in
what stands between the parentheses. -/
def Signature.ofChars? (chars : List Char) : Option Signature :=
  match splitMethod? chars with
  | some (between, result) => some ⟨(findTypes between).map String.ofList, String.ofList result⟩
  | none => none

/-- The signature that the method descriptor `text` writes, or `none` if it is no method descriptor.
-/
def Signature.parse? (text : String) : Option Signature :=
  Signature.ofChars? text.toList

/-- Whether `text` is the descriptor of a method, i.e. `Signature.parse?` reads it. -/
def isMethod (text : String) : Bool :=
  (Signature.parse? text).isSome

end Reidentify.Descriptor
