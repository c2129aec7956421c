import Reidentify.Number.Binary64

/-!
# Document values

The values that a JSON document is made of. Objects keep their members in the order in which
they were written, with one member per key. Truth values count as the numbers one and zero when
values are compared, and objects are compared without regard to the order of their members.
-/

namespace Reidentify

/-- A value of a JSON document. Its objects keep the order of their members, which `Value.equals`
does not look at. -/
inductive Value where
  /-- The absent value, also what `Value.member` gives for a key that is not there. -/
  | null
  /-- A truth value, which counts as `1` or `0` where numbers are compared. -/
  | bool (truth : Bool)
  /-- An integer of any size. -/
  | int (number : Int)
  /-- A floating-point number, the infinities and the value that is no number included. -/
  | float (number : Binary64)
  /-- A text, which may hold characters that stand for halves of pairs (`Text.isUnpaired`). -/
  | str (text : String)
  /-- A list of values. -/
  | list (items : List Value)
  /-- An object: members with distinct keys, in the order in which they were written. -/
  | obj (members : List (String × Value))
  deriving Inhabited

namespace Value

mutual

/-- Whether `a` and `b` are the same value is decidable, unlike `equals` with regard to the order of
members and the way numbers are written. -/
def decideEq : (a b : Value) → Decidable (a = b)
  | .null, .null => isTrue rfl
  | .bool x, .bool y => if h : x = y then isTrue (h ▸ rfl) else isFalse (by simp [h])
  | .int x, .int y => if h : x = y then isTrue (h ▸ rfl) else isFalse (by simp [h])
  | .float x, .float y => if h : x = y then isTrue (h ▸ rfl) else isFalse (by simp [h])
  | .str x, .str y => if h : x = y then isTrue (h ▸ rfl) else isFalse (by simp [h])
  | .list xs, .list ys =>
    match decideEqItems xs ys with
    | isTrue h => isTrue (h ▸ rfl)
    | isFalse h => isFalse (by simp [h])
  | .obj xs, .obj ys =>
    match decideEqMembers xs ys with
    | isTrue h => isTrue (h ▸ rfl)
    | isFalse h => isFalse (by simp [h])
  | .null, .bool _ | .null, .int _ | .null, .float _ | .null, .str _ | .null, .list _
  | .null, .obj _ | .bool _, .null | .bool _, .int _ | .bool _, .float _ | .bool _, .str _
  | .bool _, .list _ | .bool _, .obj _ | .int _, .null | .int _, .bool _ | .int _, .float _
  | .int _, .str _ | .int _, .list _ | .int _, .obj _ | .float _, .null | .float _, .bool _
  | .float _, .int _ | .float _, .str _ | .float _, .list _ | .float _, .obj _ | .str _, .null
  | .str _, .bool _ | .str _, .int _ | .str _, .float _ | .str _, .list _ | .str _, .obj _
  | .list _, .null | .list _, .bool _ | .list _, .int _ | .list _, .float _ | .list _, .str _
  | .list _, .obj _ | .obj _, .null | .obj _, .bool _ | .obj _, .int _ | .obj _, .float _
  | .obj _, .str _ | .obj _, .list _ => isFalse (by simp)

/-- Whether two lists of values are the same list is decidable, item by item with `decideEq`. -/
def decideEqItems : (xs ys : List Value) → Decidable (xs = ys)
  | [], [] => isTrue rfl
  | x :: xs, y :: ys =>
    match decideEq x y, decideEqItems xs ys with
    | isTrue h, isTrue k => isTrue (h ▸ k ▸ rfl)
    | isFalse h, _ => isFalse (by simp [h])
    | _, isFalse k => isFalse (by simp [k])
  | [], _ :: _ | _ :: _, [] => isFalse (by simp)

/-- Whether two lists of members are the same list is decidable, keys and values in the same order.
-/
def decideEqMembers : (xs ys : List (String × Value)) → Decidable (xs = ys)
  | [], [] => isTrue rfl
  | (k, x) :: xs, (l, y) :: ys =>
    if hk : k = l then
      match decideEq x y, decideEqMembers xs ys with
      | isTrue h, isTrue h' => isTrue (hk ▸ h ▸ h' ▸ rfl)
      | isFalse h, _ => isFalse (by simp [h])
      | _, isFalse h' => isFalse (by simp [h'])
    else isFalse (by simp [hk])
  | [], _ :: _ | _ :: _, [] => isFalse (by simp)

end

instance : DecidableEq Value := decideEq

/-- The number that a value counts as in a comparison (`quantity?`), truth values being one and
zero. -/
inductive Quantity where
  /-- An integer, or a truth value as `1` or `0`. -/
  | whole (number : Int)
  /-- A floating-point number. -/
  | real (number : Binary64)
  deriving DecidableEq, Repr

/-- Equality of two quantities by their exact values, so an integer and a floating-point number are
compared without rounding either. -/
def Quantity.equals : Quantity → Quantity → Bool
  | .whole m, .whole n => m == n
  | .whole m, .real y => y.equalsInt m
  | .real x, .whole n => x.equalsInt n
  | .real x, .real y => x.equals y

/-- The number that a value counts as, or `none` for the absent value, a text, a list and an object.
-/
def quantity? : Value → Option Quantity
  | .bool truth => some (.whole (if truth then 1 else 0))
  | .int number => some (.whole number)
  | .float number => some (.real number)
  | _ => none

/-- Whether a quantity is strictly below the integer `n`. The value that is no number is not. -/
def Quantity.below (n : Int) : Quantity → Bool
  | .whole m => m < n
  | .real x => x.belowInt n

/-- Whether a quantity is strictly above the integer `n`. The value that is no number is not. -/
def Quantity.above (n : Int) : Quantity → Bool
  | .whole m => n < m
  | .real x => x.aboveInt n

/-- Equality of the scalar values `a` and `b`: numbers by their `Quantity`, texts by their
characters. Values of two sorts differ. -/
def scalarEquals (a b : Value) : Bool :=
  match a.quantity?, b.quantity? with
  | some m, some n => m.equals n
  | _, _ =>
    match a, b with
    | .null, .null => true
    | .str x, .str y => x == y
    | _, _ => false

/-- Whether both values are the floating-point value that is no number. Such values differ by
`equals`, but not as items of lists or members of objects. -/
def bothNotANumber : Value → Value → Bool
  | .float x, .float y => x.isNotANumber && y.isNotANumber
  | _, _ => false

mutual

/-- Whether two values are equal: lists item by item, objects member by member in any order, and
scalars by `scalarEquals`. The value that is no number differs from itself on its own, but not
as a part of a list or an object. -/
def equals : Value → Value → Bool
  | .list xs, .list ys => equalItems xs ys
  | .obj xs, .obj ys => xs.length == ys.length && membersWithin xs ys
  | a, b => scalarEquals a b

/-- Whether two lists of values are equal item by item, where two items that are no number
(`bothNotANumber`) count as equal. -/
def equalItems : List Value → List Value → Bool
  | [], [] => true
  | x :: xs, y :: ys => (bothNotANumber x y || equals x y) && equalItems xs ys
  | _, _ => false

/-- Whether every member of the first list has an equal one of its key in the second. For lists of
one length with distinct keys this is equality in any order. -/
def membersWithin : List (String × Value) → List (String × Value) → Bool
  | [], _ => true
  | (key, x) :: xs, ys =>
    (match ys.lookup key with
      | some y => bothNotANumber x y || equals x y
      | none => false) && membersWithin xs ys

end

/-- Whether a value counts as true: everything but the absent value, `false`, the zeros and what is
empty. -/
def isTruthy : Value → Bool
  | .null => false
  | .bool truth => truth
  | .int number => number != 0
  | .float number => !number.isZero
  | .str text => !text.isEmpty
  | .list items => !items.isEmpty
  | .obj members => !members.isEmpty

/-- Whether a value is the absent one, `.null`, which no other value equals. -/
def isNull : Value → Bool
  | .null => true
  | _ => false

/-- The characters of a text `.str text`, and `none` for any other value. -/
def text? : Value → Option String
  | .str text => some text
  | _ => none

/-- The items of a list `.list items`, and `none` for any other value. -/
def items? : Value → Option (List Value)
  | .list items => some items
  | _ => none

/-- The members of an object `.obj members`, and `none` for any other value. -/
def members? : Value → Option (List (String × Value))
  | .obj members => some members
  | _ => none

/-- The value of `key` among `members`, or `.null` if no member has this key. -/
def member (members : List (String × Value)) (key : String) : Value :=
  (members.lookup key).getD .null

/-- Whether a value can serve as the key of an index. Lists and objects cannot, and looking one up
is a fault. -/
def isIndexable : Value → Bool
  | .list _ | .obj _ => false
  | _ => true

/-- Sets the member `key` of an object to `value`: a known key keeps its place, a new one is added
at the end. -/
def setMember (key : String) (value : Value) :
    List (String × Value) → List (String × Value)
  | [] => [(key, value)]
  | (other, old) :: rest =>
    if other = key then (key, value) :: rest else (other, old) :: setMember key value rest

/-- A value `v` equals the text `s` by `equals` only if it is this text. -/
theorem equals_str {v : Value} {s : String} : v.equals (.str s) = true ↔ v = .str s := by
  cases v <;> simp [equals, scalarEquals, quantity?]

/-- A text equals exactly the value that holds it, as in `equals_str` with the sides exchanged. -/
theorem str_equals {value : Value} {text : String} :
    (Value.str text).equals value = true ↔ value = .str text := by
  cases value with
  | str other =>
    rw [equals_str]
    exact eq_comm
  | _ => simp [equals, scalarEquals, quantity?]

end Value

end Reidentify
