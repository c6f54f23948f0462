/-
**The SHA-256 digest.**

A message is padded to whole blocks of sixty-four bytes, the last eight of which hold its length in
bits. A state of eight words goes through the blocks one after another: each block gives a schedule
of sixty-four words, and each word one round. The words of the last state, first byte first, are the
digest.
-/

namespace NodeStorage.Digest

/-- The fractional parts of the cube roots of the first sixty-four primes. -/
def roundConstants : List UInt32 :=
  [0x428a2f98, 0x71374491, 0xb5c0fbcf, 0xe9b5dba5, 0x3956c25b, 0x59f111f1, 0x923f82a4, 0xab1c5ed5,
   0xd807aa98, 0x12835b01, 0x243185be, 0x550c7dc3, 0x72be5d74, 0x80deb1fe, 0x9bdc06a7, 0xc19bf174,
   0xe49b69c1, 0xefbe4786, 0x0fc19dc6, 0x240ca1cc, 0x2de92c6f, 0x4a7484aa, 0x5cb0a9dc, 0x76f988da,
   0x983e5152, 0xa831c66d, 0xb00327c8, 0xbf597fc7, 0xc6e00bf3, 0xd5a79147, 0x06ca6351, 0x14292967,
   0x27b70a85, 0x2e1b2138, 0x4d2c6dfc, 0x53380d13, 0x650a7354, 0x766a0abb, 0x81c2c92e, 0x92722c85,
   0xa2bfe8a1, 0xa81a664b, 0xc24b8b70, 0xc76c51a3, 0xd192e819, 0xd6990624, 0xf40e3585, 0x106aa070,
   0x19a4c116, 0x1e376c08, 0x2748774c, 0x34b0bcb5, 0x391c0cb3, 0x4ed8aa4a, 0x5b9cca4f, 0x682e6ff3,
   0x748f82ee, 0x78a5636f, 0x84c87814, 0x8cc70208, 0x90befffa, 0xa4506ceb, 0xbef9a3f7, 0xc67178f2]

/-- Eight words that a message is worked into. -/
structure HashState where
  a : UInt32
  b : UInt32
  c : UInt32
  d : UInt32
  e : UInt32
  f : UInt32
  g : UInt32
  h : UInt32
  deriving DecidableEq, Repr

namespace HashState

/-- The fractional parts of the square roots of the first eight primes. -/
def start : HashState :=
  ⟨0x6a09e667, 0xbb67ae85, 0x3c6ef372, 0xa54ff53a, 0x510e527f, 0x9b05688c, 0x1f83d9ab, 0x5be0cd19⟩

/-- The word-wise sum of two states. -/
def add (left right : HashState) : HashState :=
  ⟨left.a + right.a, left.b + right.b, left.c + right.c, left.d + right.d,
   left.e + right.e, left.f + right.f, left.g + right.g, left.h + right.h⟩

/-- The words of a state. -/
def words (state : HashState) : List UInt32 :=
  [state.a, state.b, state.c, state.d, state.e, state.f, state.g, state.h]

end HashState

/-- The word turned to the right by `count` bits. -/
def rotate (word count : UInt32) : UInt32 :=
  (word >>> count) ||| (word <<< (32 - count))

/-- One round with a constant and a word of the schedule. -/
def round (state : HashState) (constant word : UInt32) : HashState :=
  let mixE := rotate state.e 6 ^^^ rotate state.e 11 ^^^ rotate state.e 25
  let choice := (state.e &&& state.f) ^^^ (~~~state.e &&& state.g)
  let first := state.h + mixE + choice + constant + word
  let mixA := rotate state.a 2 ^^^ rotate state.a 13 ^^^ rotate state.a 22
  let majority := (state.a &&& state.b) ^^^ (state.a &&& state.c) ^^^ (state.b &&& state.c)
  ⟨first + (mixA + majority), state.a, state.b, state.c, state.d + first, state.e, state.f, state.g⟩

/-- The words of some bytes, four bytes a word, first byte first. -/
def wordsOf : List UInt8 → List UInt32
  | a :: b :: c :: d :: rest =>
    ((a.toUInt32 <<< 24) ||| (b.toUInt32 <<< 16) ||| (c.toUInt32 <<< 8) ||| d.toUInt32) ::
      wordsOf rest
  | _ => []

/-- The next word of a schedule, from the words before it. -/
def nextWord (schedule : Array UInt32) : UInt32 :=
  let back (count : Nat) : UInt32 := schedule.getD (schedule.size - count) 0
  let low := rotate (back 15) 7 ^^^ rotate (back 15) 18 ^^^ (back 15 >>> 3)
  let high := rotate (back 2) 17 ^^^ rotate (back 2) 19 ^^^ (back 2 >>> 10)
  back 16 + low + back 7 + high

/-- A schedule with `count` more words. -/
def extendSchedule : (count : Nat) → Array UInt32 → Array UInt32
  | 0, schedule => schedule
  | count + 1, schedule => extendSchedule count (schedule.push (nextWord schedule))

/-- Works one block into the state. -/
def compress (state : HashState) (block : List UInt8) : HashState :=
  let schedule := extendSchedule 48 (wordsOf block).toArray
  let rounds := roundConstants.zip schedule.toList
  (rounds.foldl (fun inner step => round inner step.1 step.2) state).add state

/-- The bytes of a number, `count` of them, the highest first. -/
def bigEndian (count value : Nat) : List UInt8 :=
  (List.range count).reverse.map fun place => UInt8.ofNat (value / Nat.pow 256 place % 256)

/-- The message with a marker, zeros and its length, in whole blocks. -/
def padded (message : List UInt8) : List UInt8 :=
  let zeros := (119 - message.length % 64) % 64
  message ++ 0x80 :: List.replicate zeros 0 ++ bigEndian 8 (message.length * 8)

/-- Works the first `count` blocks of some bytes into the state. -/
def absorb : (count : Nat) → HashState → List UInt8 → HashState
  | 0, state, _ => state
  | count + 1, state, bytes => absorb count (compress state (bytes.take 64)) (bytes.drop 64)

/-- The digest of a message, thirty-two bytes. -/
def sha256 (message : List UInt8) : List UInt8 :=
  let whole := padded message
  (absorb (whole.length / 64) HashState.start whole).words.flatMap fun word =>
    bigEndian 4 word.toNat

end NodeStorage.Digest
