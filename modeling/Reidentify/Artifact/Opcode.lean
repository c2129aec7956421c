import Reidentify.Value.Rendering

/-!
# Opcodes and access flags

The operation of an instruction is a number below 256. A document may also write the operations
zero and one as truth values; they count as these numbers, but are shown the way they were
written. Access flags are the bits of an integer of any size; a negative integer has infinitely
many of them, as in two's complement.
-/

namespace Reidentify

/-- The operation of an instruction, as its document writes it. Two forms of one `code` behave alike
and are shown differently. -/
inductive Opcode where
  /-- An operation by its number `code`. -/
  | number (code : Fin 256)
  /-- One of the first two operations, written as a truth value. -/
  | flag (truth : Bool)
  deriving DecidableEq, Repr

namespace Opcode

/-- The number of an operation, whichever way it is written, as a `number` or as a `flag`. -/
def code : Opcode → Nat
  | .number code => code.val
  | .flag truth => if truth then 1 else 0

theorem code_lt (opcode : Opcode) : opcode.code < 256 := by
  cases opcode with
  | number code => exact code.isLt
  | flag truth => cases truth <;> decide

/-- The operation that a value writes: a truth value, or an integer from 0 to 255. No other value
writes one. -/
def ofValue? : Value → Option Opcode
  | .bool truth => some (.flag truth)
  | .int n => if h : n.toNat < 256 ∧ 0 ≤ n then some (.number ⟨n.toNat, h.1⟩) else none
  | _ => none

/-- The value that writes an operation, the one that `ofValue?` reads it from. -/
def toValue : Opcode → Value
  | .number code => .int code.val
  | .flag truth => .bool truth

/-- An operation is read back from the value that writes it: `ofValue?` is a left inverse of
`toValue`. -/
@[simp] theorem ofValue?_toValue (opcode : Opcode) : ofValue? opcode.toValue = some opcode := by
  cases opcode with
  | number code => simp [toValue, ofValue?]
  | flag truth => rfl

/-- A value `v` that writes an operation is the one that the operation is written as. -/
theorem toValue_of_ofValue? {v : Value} {opcode : Opcode} (h : ofValue? v = some opcode) :
    opcode.toValue = v := by
  unfold ofValue? at h
  split at h
  · simp only [Option.some.injEq] at h
    rw [← h]
    rfl
  · split at h
    · next n bound =>
      simp only [Option.some.injEq] at h
      rw [← h]
      exact congrArg Value.int (Int.toNat_of_nonneg bound.2)
    · simp at h
  · simp at h

/-- Whether the operation reads or writes a field, of an instance or of a class: its `code` is
between 178 and 181. -/
def isField (opcode : Opcode) : Bool :=
  opcode.code == 178 || opcode.code == 179 || opcode.code == 180 || opcode.code == 181

/-- Whether the operation writes a field, which is a part of what `isField` says. -/
def isFieldWrite (opcode : Opcode) : Bool :=
  opcode.code == 179 || opcode.code == 181

/-- Whether the operation calls a method that is found by its name: its `code` is between 182 and
185. -/
def isCall (opcode : Opcode) : Bool :=
  opcode.code == 182 || opcode.code == 183 || opcode.code == 184 || opcode.code == 185

/-- Whether the operation pushes an integer that is written with it, in one byte or in two. -/
def isIntPush (opcode : Opcode) : Bool :=
  opcode.code == 16 || opcode.code == 17

end Opcode

/-- The access flags of a class or a member that play a role. `AccessFlag.weight` is the bit of each
of them. -/
inductive AccessFlag where
  /-- Accessible from everywhere. -/
  | isPublic
  /-- Belonging to the class and not to its instances. -/
  | isStatic
  /-- Assigned once. -/
  | isFinal
  /-- Being an interface. -/
  | isInterface
  /-- Without an implementation. -/
  | isAbstract
  deriving DecidableEq, Repr

/-- The weight of a flag among the access bits, one power of two for each. -/
def AccessFlag.weight : AccessFlag → Nat
  | .isPublic => 0x0001
  | .isStatic => 0x0008
  | .isFinal => 0x0010
  | .isInterface => 0x0200
  | .isAbstract => 0x0400

/-- Whether `flag` is set in the bits of `access`, an integer of any size and sign. -/
def AccessFlag.isSet (flag : AccessFlag) (access : Int) : Bool :=
  access / flag.weight % 2 == 1

end Reidentify
