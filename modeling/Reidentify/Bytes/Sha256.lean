/-!
# The digest SHA-256

A message is padded to whole blocks of sixteen words, and each block is mixed into a state of
eight words. The digest is the state behind the last block, written as bytes or as hexadecimal
digits.
-/

namespace Reidentify.Sha256

/-- The fractions of the cube roots of the first sixty-four primes, one for every round of `rounds`.
-/
def roundConstants : List UInt32 :=
  [0x428a2f98, 0x71374491, 0xb5c0fbcf, 0xe9b5dba5, 0x3956c25b, 0x59f111f1, 0x923f82a4, 0xab1c5ed5,
   0xd807aa98, 0x12835b01, 0x243185be, 0x550c7dc3, 0x72be5d74, 0x80deb1fe, 0x9bdc06a7, 0xc19bf174,
   0xe49b69c1, 0xefbe4786, 0x0fc19dc6, 0x240ca1cc, 0x2de92c6f, 0x4a7484aa, 0x5cb0a9dc, 0x76f988da,
   0x983e5152, 0xa831c66d, 0xb00327c8, 0xbf597fc7, 0xc6e00bf3, 0xd5a79147, 0x06ca6351, 0x14292967,
   0x27b70a85, 0x2e1b2138, 0x4d2c6dfc, 0x53380d13, 0x650a7354, 0x766a0abb, 0x81c2c92e, 0x92722c85,
   0xa2bfe8a1, 0xa81a664b, 0xc24b8b70, 0xc76c51a3, 0xd192e819, 0xd6990624, 0xf40e3585, 0x106aa070,
   0x19a4c116, 0x1e376c08, 0x2748774c, 0x34b0bcb5, 0x391c0cb3, 0x4ed8aa4a, 0x5b9cca4f, 0x682e6ff3,
   0x748f82ee, 0x78a5636f, 0x84c87814, 0x8cc70208, 0x90befffa, 0xa4506ceb, 0xbef9a3f7, 0xc67178f2]

/-- The eight words of a state, which a block is mixed into. -/
structure State where
  /-- The first word. -/
  a : UInt32
  /-- The second word. -/
  b : UInt32
  /-- The third word. -/
  c : UInt32
  /-- The fourth word. -/
  d : UInt32
  /-- The fifth word. -/
  e : UInt32
  /-- The sixth word. -/
  f : UInt32
  /-- The seventh word. -/
  g : UInt32
  /-- The eighth word. -/
  h : UInt32
  deriving DecidableEq, Repr

/-- The `State` before the first block: the fractions of the square roots of the first eight primes.
-/
def State.start : State :=
  ⟨0x6a09e667, 0xbb67ae85, 0x3c6ef372, 0xa54ff53a, 0x510e527f, 0x9b05688c, 0x1f83d9ab, 0x5be0cd19⟩

/-- The word `x` turned to the right by `amount` bits, the last of which come to the front. -/
def rotate (x amount : UInt32) : UInt32 :=
  (x >>> amount) ||| (x <<< (32 - amount))

/-- One round on the state `s`, with its message word and its constant. -/
def State.round (s : State) (word constant : UInt32) : State :=
  let sum1 := rotate s.e 6 ^^^ rotate s.e 11 ^^^ rotate s.e 25
  let choice := (s.e &&& s.f) ^^^ (~~~s.e &&& s.g)
  let temp1 := s.h + sum1 + choice + constant + word
  let sum0 := rotate s.a 2 ^^^ rotate s.a 13 ^^^ rotate s.a 22
  let majority := (s.a &&& s.b) ^^^ (s.a &&& s.c) ^^^ (s.b &&& s.c)
  ⟨temp1 + sum0 + majority, s.a, s.b, s.c, s.d + temp1, s.e, s.f, s.g⟩

/-- The next word of a message schedule whose last sixteen words are `window`, oldest first. -/
def nextWord (window : List UInt32) : UInt32 :=
  let w16 := window.headD 0
  let w15 := (window.drop 1).headD 0
  let w7 := (window.drop 9).headD 0
  let w2 := (window.drop 14).headD 0
  let small0 := rotate w15 7 ^^^ rotate w15 18 ^^^ (w15 >>> 3)
  let small1 := rotate w2 17 ^^^ rotate w2 19 ^^^ (w2 >>> 10)
  w16 + small0 + w7 + small1

/-- The rounds of a block, one for every constant: each uses the oldest word of the window and adds
a new one (`nextWord`). -/
def rounds : List UInt32 → List UInt32 → State → State
  | [], _, state => state
  | constant :: constants, window, state =>
    rounds constants (window.drop 1 ++ [nextWord window])
      (state.round (window.headD 0) constant)

/-- Mixes `block`, sixteen words, into the state `s`, by one round for each scheduled word. -/
def State.absorb (s : State) (block : List UInt32) : State :=
  let t := rounds roundConstants block s
  ⟨s.a + t.a, s.b + t.b, s.c + t.c, s.d + t.d, s.e + t.e, s.f + t.f, s.g + t.g, s.h + t.h⟩

/-- The last `width` bytes of the number `n`, the most significant first. -/
def bigEndian (width n : Nat) : List UInt8 :=
  (List.range width).reverse.map fun k => UInt8.ofNat (n / Nat.pow 256 k % 256)

/-- The bytes of `message` with their padding: a one bit, zeros up to eight bytes before the end of
a block, and the length in bits. -/
def padded (message : List UInt8) : List UInt8 :=
  let zeros := (119 - message.length % 64) % 64
  message ++ 0x80 :: List.replicate zeros 0 ++ bigEndian 8 (8 * message.length)

/-- The word of the four bytes `a` to `d`, the first one being the most significant. -/
def word (a b c d : UInt8) : UInt32 :=
  (a.toUInt32 <<< 24) ||| (b.toUInt32 <<< 16) ||| (c.toUInt32 <<< 8) ||| d.toUInt32

/-- The words of some bytes, four bytes each (`word`); fewer than four at the end are left out. -/
def words : List UInt8 → List UInt32
  | a :: b :: c :: d :: rest => word a b c d :: words rest
  | _ => []

/-- Mixes as many blocks of sixteen words into a state as the count says (`State.absorb`). -/
def absorbBlocks : Nat → List UInt32 → State → State
  | 0, _, state => state
  | count + 1, message, state =>
    absorbBlocks count (message.drop 16) (state.absorb (message.take 16))

/-- The eight words of the digest of `message`: the state behind its last block. -/
def digestWords (message : List UInt8) : List UInt32 :=
  let message := words (padded message)
  let s := absorbBlocks (message.length / 16) message State.start
  [s.a, s.b, s.c, s.d, s.e, s.f, s.g, s.h]

/-- The last `width` digits of the number `n` in base sixteen. -/
def hexText (width n : Nat) : List Char :=
  (List.range width).reverse.map fun k => Nat.digitChar (n / Nat.pow 16 k % 16)

/-- The digest of `message` in sixty-four hexadecimal digits. -/
def hexDigest (message : List UInt8) : String :=
  String.ofList ((digestWords message).flatMap fun word => hexText 8 word.toNat)

end Reidentify.Sha256
